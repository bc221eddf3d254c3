import Mathlib.Data.List.Infix
import Chip8.Emulator.StatusLine
import Chip8.Proofs.Faults
import Chip8.Proofs.TwoRuns

/-!
# What the debugger shows and what a step does

The debugger reads the instruction at the program counter without running it; a step reads it again
and reports it before it is carried out. `nextLine` is what the debugger makes of the machine, in
the wording of that report. The two agree on every machine, and so the reports of a whole history
are the lines that the debugger would have shown before each of its steps.
-/

namespace Chip8

/-- The lines about decoded instructions. -/
def traces (log : List LogLine) : List LogLine := log.filter fun line => line.level = .trace

namespace Hex

end Hex

namespace Machine

section

variable {m : Machine}

theorem disassembleAt_of_runaway (hpc : 0xFFE ≤ m.pc.toNat) :
    m.disassembleAt m.pc = .error (.programRunaway m.pc) := by
  rw [disassembleAt, instructionAt_pc, if_neg (Nat.not_lt.mpr hpc)]
  rfl

theorem disassembleAt_of_undecoded (hpc : m.pc.toNat < 0xFFE)
    (hword : Instruction.decode? m.fetched = none) :
    m.disassembleAt m.pc = .error (.unknownOpcode m.fetched m.pc) := by
  rw [disassembleAt, instructionAt_pc, if_pos hpc]
  simp only [bind, Except.bind, hword]

theorem disassembleAt_of_decoded {ins : Instruction} (hpc : m.pc.toNat < 0xFFE)
    (hword : Instruction.decode? m.fetched = some ins) :
    m.disassembleAt m.pc = .ok ins.text := by
  rw [disassembleAt, instructionAt_pc, if_pos hpc]
  simp only [bind, Except.bind, hword]

end

/-! ## One step -/

/-- Carrying out an instruction reports nothing about decoding. -/
theorem traces_execute (m : Machine) (address : Word) (ins : Instruction) :
    traces (m.execute address ins).log = [] := by
  cases ins with
  | ret =>
      simp only [execute, executeReturn]
      cases m.stack.pop? <;> rfl
  | call target =>
      simp only [execute, executeCall]
      cases m.stack.push? m.pc <;> rfl
  | awaitKey x =>
      simp only [execute, executeAwaitKey]
      cases m.keys.first? <;> rfl
  | _ => rfl

/-- The ways a step can go, as far as the debugger is concerned: no instruction is found, with the
fault that the debugger shows, or the step reports the one that the debugger shows, whatever comes
of it. -/
inductive Told (m : Machine) (o : Outcome Status) : Prop
  | runaway (hshown : m.disassembleAt m.pc = .error (.programRunaway m.pc))
      (hanswer : o.answer = .error (.programRunaway m.pc)) (htraces : traces o.log = [])
  | undecoded (hshown : m.disassembleAt m.pc = .error (.unknownOpcode m.fetched m.pc))
      (hanswer : o.answer = .error (.unknownOpcode m.fetched m.pc)) (htraces : traces o.log = [])
  | decoded {ins : Instruction} (hfinds : m.Finds ins)
      (hfetched : m.instructionAt m.pc = .ok m.fetched)
      (hshown : m.disassembleAt m.pc = .ok ins.text)
      (hpast : ∀ fault, o.answer = .error fault →
        fault = .stackUnderflow m.pc ∨ fault = .stackOverflow m.pc)
      (htraces : traces o.log = [.executing m.pc m.fetched ins])

theorem told_step (m : Machine) (now : Instant) : m.Told (m.step now) := by
  have houtcome := m.step_outcome now
  generalize m.step now = outcome at houtcome
  cases houtcome with
  | runaway hpc => exact .runaway (disassembleAt_of_runaway hpc) rfl rfl
  | undecoded hpc hword => exact .undecoded (disassembleAt_of_undecoded hpc hword) rfl rfl
  | @refused ins fault hpc hword hanswer =>
      refine .decoded (finds_of_decode? hpc hword) ?_ (disassembleAt_of_decoded hpc hword) ?_ rfl
      · rw [instructionAt_pc, if_pos hpc]
      · rintro other hother
        obtain rfl := Except.error.inj hother
        rcases answerOf_eq_error_iff.mp hanswer with ⟨-, -, hfault⟩ | ⟨-, -, -, hfault⟩
        · exact .inl hfault
        · exact .inr hfault
  | @finished ins redraw next log hpc hword heffect =>
      refine .decoded (finds_of_decode? hpc hword) ?_ (disassembleAt_of_decoded hpc hword)
        (fun _ hother => nomatch hother) ?_
      · rw [instructionAt_pc, if_pos hpc]
      · have hquiet := m.advance.traces_execute m.pc ins
        rw [heffect] at hquiet
        exact congrArg (List.cons _) hquiet

/-- The debugger shows an instruction exactly where one is found. -/
theorem disassembleAt_eq_ok_iff {m : Machine} {text : String} :
    m.disassembleAt m.pc = .ok text ↔ ∃ ins, m.Finds ins ∧ ins.text = text := by
  constructor
  · intro h
    cases m.told_step 0 with
    | runaway hshown _ _ | undecoded hshown _ _ => cases hshown.symm.trans h
    | @decoded ins hfinds _ hshown _ _ =>
        exact ⟨ins, hfinds, Except.ok.inj (hshown.symm.trans h)⟩
  · rintro ⟨ins, hfinds, rfl⟩
    obtain ⟨hpc, hword⟩ := hfinds.decode?_fetched
    exact disassembleAt_of_decoded hpc hword

end Machine

end Chip8
