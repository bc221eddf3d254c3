import Mathlib.Logic.ExistsUnique
import Chip8.Proofs.Decoding
import Chip8.Proofs.Stepping

/-!
# When a step fails

`Stops` states the four causes that can stop a step, each on the state before the
step alone. A step fails exactly when one of them holds, with the fault that
belongs to it, and then nothing but the program counter has changed.
-/

namespace Chip8.Machine

/-- What stops a step, each cause with the fault that tells of it. -/
inductive Stops (m : Machine) : Fault → Prop
  /-- No complete word stands at the program counter. -/
  | runaway (hpc : 0xFFE ≤ m.pc.toNat) : Stops m (.programRunaway m.pc)
  /-- The word there is not the word of any instruction. -/
  | unknown (hpc : m.pc.toNat < 0xFFE)
      (hword : ∀ (ins : Instruction) (spare : Nibble), ins.word spare ≠ m.fetched) :
      Stops m (.unknownOpcode m.fetched m.pc)
  /-- A return finds no address on the stack. -/
  | underflow (hpc : m.pc.toNat < 0xFFE) (hword : m.fetched = 0x00EE)
      (hdepth : m.stack.depth = 0) : Stops m (.stackUnderflow m.pc)
  /-- A call finds sixteen addresses on the stack. -/
  | overflow (target : Address) (hpc : m.pc.toNat < 0xFFE)
      (hword : m.fetched = Word.ofAddress 0x2 target) (hdepth : m.stack.depth = 16) :
      Stops m (.stackOverflow m.pc)

theorem answerOf_eq_error_iff {m : Machine} {address : Word} {ins : Instruction} {fault : Fault} :
    m.answerOf address ins = .error fault ↔
      (ins = .ret ∧ m.stack.depth = 0 ∧ fault = .stackUnderflow address) ∨
      ∃ target, ins = .call target ∧ m.stack.depth = 16 ∧ fault = .stackOverflow address := by
  cases ins with
  | ret =>
      by_cases hdepth : m.stack.depth = 0 <;> simp [answerOf, hdepth, eq_comm]
  | call target =>
      by_cases hdepth : m.stack.depth = 16 <;> simp [answerOf, hdepth, eq_comm]
  | _ => simp [answerOf]

/-- A failing step has one of the causes, and it has changed the counter at most. -/
theorem stops_of_step_error {m : Machine} {now : Instant} {fault : Fault}
    (h : (m.step now).answer = .error fault) :
    m.Stops fault ∧
      (m.step now).machine = if 0xFFE ≤ m.pc.toNat then m else m.advance := by
  cases hstep : m.step now with
  | mk next answer log =>
  rw [hstep] at h
  have houtcome := m.step_outcome now
  rw [hstep] at houtcome
  cases houtcome with
  | runaway hpc =>
      cases h
      exact ⟨.runaway hpc, (if_pos hpc).symm⟩
  | undecoded hpc hword =>
      cases h
      exact ⟨.unknown hpc (Instruction.decode?_eq_none_iff.mp hword),
        (if_neg (by omega)).symm⟩
  | @refused ins _ hpc hword hanswer =>
      cases h
      refine ⟨?_, (if_neg (by omega)).symm⟩
      have hfetched := Instruction.word_of_decode? hword
      rcases answerOf_eq_error_iff.mp hanswer with
        ⟨rfl, hdepth, rfl⟩ | ⟨target, rfl, hdepth, rfl⟩
      · exact .underflow hpc hfetched.symm hdepth
      · exact .overflow target hpc hfetched.symm hdepth
  | finished hpc hword heffect => cases h

/-- Each cause makes the step fail with its fault. -/
theorem step_error_of_stops {m : Machine} {fault : Fault} (h : m.Stops fault) (now : Instant) :
    (m.step now).answer = .error fault := by
  have hrefused : ∀ {ins : Instruction}, m.pc.toNat < 0xFFE →
      Instruction.decode? m.fetched = some ins →
      m.advance.answerOf m.pc ins = .error fault → (m.step now).answer = .error fault := by
    intro ins hpc hword hanswer
    rw [step_of_decode? hpc hword,
      execute_of_error m.advance m.pc ((answer_execute ..).trans hanswer)]
  cases h with
  | runaway hpc => rw [step_of_runaway hpc]
  | unknown hpc hword => rw [step_of_undecoded hpc (Instruction.decode?_eq_none_iff.mpr hword)]
  | underflow hpc hword hdepth =>
      refine @hrefused .ret hpc ?_ ?_
      · rw [hword]
        exact Instruction.decode?_word .ret 0
      · exact answerOf_eq_error_iff.mpr (.inl ⟨rfl, hdepth, rfl⟩)
  | overflow target hpc hword hdepth =>
      refine @hrefused (.call target) hpc ?_ ?_
      · rw [hword]
        exact Instruction.decode?_word (.call target) 0
      · exact answerOf_eq_error_iff.mpr (.inr ⟨target, rfl, hdepth, rfl⟩)

/-- A step fails if and only if exactly one of the causes holds, and with the fault of this
cause. A failing step leaves the whole machine as it was but for the counter, which stays where no
word could be fetched and has moved past the word otherwise. -/
theorem step_error_iff_stops (m : Machine) (now : Instant) :
    (∀ fault, (m.step now).answer = .error fault ↔ m.Stops fault) ∧
    ((∃ fault, (m.step now).answer = .error fault) ↔ ∃! fault, m.Stops fault) ∧
    ∀ fault, (m.step now).answer = .error fault →
      { (m.step now).machine with pc := m.pc } = m ∧
      (m.step now).machine.pc.toNat =
        if fault = .programRunaway m.pc then m.pc.toNat else m.pc.toNat + 2 := by
  have hiff : ∀ fault, (m.step now).answer = .error fault ↔ m.Stops fault := fun fault =>
    ⟨fun h => (stops_of_step_error h).1, fun h => step_error_of_stops h now⟩
  refine ⟨hiff, ?_, ?_⟩
  · constructor
    · rintro ⟨fault, h⟩
      refine ⟨fault, (hiff fault).mp h, fun other hother => ?_⟩
      exact Except.error.inj (((hiff other).mpr hother).symm.trans h)
    · rintro ⟨fault, h, -⟩
      exact ⟨fault, (hiff fault).mpr h⟩
  · intro fault h
    obtain ⟨hstops, hmachine⟩ := stops_of_step_error h
    rw [hmachine]
    cases hstops with
    | runaway hpc => rw [if_pos hpc, if_pos rfl]; exact ⟨rfl, rfl⟩
    | unknown hpc _ | underflow hpc _ _ | overflow _ hpc _ _ =>
        rw [if_neg (by omega), if_neg (by simp)]
        exact ⟨rfl, toNat_pc_advance hpc⟩

/-- A machine that finds a return where no call is under way. -/
def atEmptyReturn : Machine := holding [0x00, 0xEE]

theorem step_error_atEmptyReturn :
    (atEmptyReturn.step 0).answer = .error (.stackUnderflow 0x200) ∧
      { (atEmptyReturn.step 0).machine with pc := atEmptyReturn.pc } = atEmptyReturn ∧
      (atEmptyReturn.step 0).machine.pc.toNat = 0x202 := by
  obtain ⟨hiff, -, hkept⟩ := step_error_iff_stops atEmptyReturn 0
  have hstops : atEmptyReturn.Stops (.stackUnderflow 0x200) :=
    .underflow (by decide +kernel) (by decide +kernel) rfl
  have herror := (hiff _).mpr hstops
  obtain ⟨hmachine, hpc⟩ := hkept _ herror
  exact ⟨herror, hmachine, hpc⟩

end Chip8.Machine
