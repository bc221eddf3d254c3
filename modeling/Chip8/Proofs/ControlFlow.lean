import Chip8.Proofs.Stepping

/-!
# Where a step leaves the program counter

`successor?` tells the address at which the program goes on, by the state before the step alone and
in natural numbers, so that no sum can wrap. A step moves the counter before it decodes, and an
instruction may then overwrite the counter, move it once more or take it back; the lemmas below say
what each of these ways comes to.
-/

namespace Chip8.Machine

/-- The address at which the program goes on after an instruction, if the instruction can be carried
out. All that it depends on is taken from before the step. -/
def successor? (m : Machine) : Instruction → Option Nat
  | .jump target | .call target => some target.toNat
  | .jumpOffset base => some (base.toNat + (m.register offset).toNat)
  | .ret => m.stack.toList.head?.map BitVec.toNat
  | .awaitKey _ => some (m.pc.toNat + if m.keys = Keypad.released then 0 else 2)
  | .skipIfByte x value => some (m.pc.toNat + if m.register x = value then 4 else 2)
  | .skipUnlessByte x value => some (m.pc.toNat + if m.register x ≠ value then 4 else 2)
  | .skipIfSame x y => some (m.pc.toNat + if m.register x = m.register y then 4 else 2)
  | .skipIfDiffer x y => some (m.pc.toNat + if m.register x ≠ m.register y then 4 else 2)
  | .skipIfHeld x =>
    some (m.pc.toNat + if m.keys.isHeld (m.register x).lowNibble = true then 4 else 2)
  | .skipUnlessHeld x =>
    some (m.pc.toNat + if m.keys.isHeld (m.register x).lowNibble = false then 4 else 2)
  | _ => some (m.pc.toNat + 2)

/-- An address has room in a word. -/
theorem toNat_setWidth_address (target : Address) : (target.setWidth 16).toNat = target.toNat := by
  have := target.isLt
  rw [BitVec.toNat_setWidth]
  omega

/-- The counter has been moved once, and a skip moves it once more. -/
theorem toNat_pc_skipIf_advance {m : Machine} (hpc : m.pc.toNat < 0xFFE) {condition : Bool}
    {p : Prop} [Decidable p] (hcondition : condition = true ↔ p) :
    (m.advance.skipIf condition).pc.toNat = m.pc.toNat + if p then 4 else 2 := by
  have hadvance := toNat_pc_advance hpc
  rw [skipIf_eq]
  by_cases hp : p
  · rw [if_pos hp, if_pos (hcondition.mpr hp), BitVec.toNat_add, hadvance,
      show (2 : Word).toNat = 2 from rfl]
    omega
  · rw [if_neg hp, if_neg (mt hcondition.mp hp), hadvance]

/-- What an instruction that can be carried out makes of the counter. -/
theorem successor?_of_isOk {m : Machine} {ins : Instruction} (hpc : m.pc.toNat < 0xFFE)
    (hanswer : (m.advance.answerOf m.pc ins).isOk) :
    m.successor? ins = some (m.advance.execute m.pc ins).machine.pc.toNat := by
  have hadvance := toNat_pc_advance hpc
  cases ins with
  | jump target => exact congrArg some (toNat_setWidth_address target).symm
  | call target =>
      simp only [execute, executeCall]
      cases hpush : m.advance.stack.push? m.advance.pc with
      | none =>
          rw [answerOf, if_pos (CallStack.push?_eq_none_iff.mp hpush)] at hanswer
          cases hanswer
      | some stack => exact congrArg some (toNat_setWidth_address target).symm
  | ret =>
      cases hlist : m.stack.toList with
      | nil =>
          have hempty : m.advance.stack.depth = 0 := CallStack.toList_eq_nil_iff.mp hlist
          rw [answerOf, if_pos hempty] at hanswer
          cases hanswer
      | cons target rest =>
          change m.stack.toList.head?.map BitVec.toNat = _
          rw [pc_execute_ret m.advance m.pc hlist, hlist]
          rfl
  | jumpOffset base =>
      have := base.isLt
      have := (m.register offset).isLt
      change some (base.toNat + (m.register offset).toNat) =
        some (base.setWidth 16 + (m.register offset).setWidth 16).toNat
      congr 1
      rw [BitVec.toNat_add, toNat_setWidth_address, BitVec.toNat_setWidth]
      omega
  | awaitKey x =>
      have hkeys : m.advance.keys = m.keys := rfl
      change some (m.pc.toNat + if m.keys = Keypad.released then 0 else 2) = _
      simp only [execute, executeAwaitKey, hkeys]
      cases hfirst : m.keys.first? with
      | none =>
          -- The counter is taken back to the instruction.
          rw [if_pos (Keypad.first?_eq_none_iff.mp hfirst), done, BitVec.toNat_sub, hadvance,
            show (2 : Word).toNat = 2 from rfl]
          congr 1
          omega
      | some key =>
          have hheld : m.keys ≠ Keypad.released := by
            intro hreleased
            rw [Keypad.first?_eq_none_iff.mpr hreleased] at hfirst
            cases hfirst
          rw [if_neg hheld]
          exact congrArg some hadvance.symm
  | skipIfByte x value =>
      exact congrArg some (toNat_pc_skipIf_advance hpc beq_iff_eq).symm
  | skipUnlessByte x value =>
      exact congrArg some (toNat_pc_skipIf_advance hpc bne_iff_ne).symm
  | skipIfSame x y =>
      exact congrArg some (toNat_pc_skipIf_advance hpc beq_iff_eq).symm
  | skipIfDiffer x y =>
      exact congrArg some (toNat_pc_skipIf_advance hpc bne_iff_ne).symm
  | skipIfHeld x =>
      exact congrArg some (toNat_pc_skipIf_advance hpc Iff.rfl).symm
  | skipUnlessHeld x =>
      exact congrArg some (toNat_pc_skipIf_advance hpc (Bool.not_eq_true' _).to_iff).symm
  | _ => exact congrArg some hadvance.symm

/-- Where a step that carries out an instruction leaves the counter. A jump and a call go to their
address, and a jump with an offset to exactly the sum; a return goes to the address stacked last; an
instruction that waits for a key stays where it is while none is held; a skip passes over the
instruction behind it if its condition holds; and in every other case the program goes on behind the
instruction. The registers and keys are those from before the step, whatever the instruction writes to
registers or to memory. -/
theorem step_goes_to_successor {m : Machine} {now : Instant} {ins : Instruction}
    (h : m.CarriesOut now ins) : m.successor? ins = some (m.step now).machine.pc.toNat := by
  obtain ⟨hpc, next, redraw, log, heffect, hstep⟩ := h.step_eq
  have hanswer : (m.advance.answerOf m.pc ins).isOk := by
    rw [← answer_execute, heffect]
    rfl
  rw [successor?_of_isOk hpc hanswer, heffect, hstep]
  rfl

/-- A machine at the jump that leads furthest past the end of memory. -/
def atFurthestJump : Machine := (holding [0xBF, 0xFF]).setRegister offset 0xFF

theorem step_goes_to_successor_atFurthestJump :
    atFurthestJump.CarriesOut 0 (.jumpOffset 0xFFF) ∧
      (atFurthestJump.step 0).machine.pc.toNat = 0x10FE := by
  have hcarries : atFurthestJump.CarriesOut 0 (.jumpOffset 0xFFF) :=
    carriesOut_of_isOk (by decide +kernel) (by decide +kernel) rfl 0
  have hsuccessor : atFurthestJump.successor? (.jumpOffset 0xFFF) = some 0x10FE := by
    decide +kernel
  refine ⟨hcarries, ?_⟩
  exact Option.some.inj ((step_goes_to_successor hcarries).symm.trans hsuccessor)

end Chip8.Machine
