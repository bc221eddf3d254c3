import Chip8.Proofs.Stepping

/-!
# Instructions that the program goes on behind

Most instructions have nothing to do with the program counter. What such an instruction does is the
same wherever it is carried out, and a step that finds it does just this, moves the counter past it
and lets the timers decay. `Ensures` states a property of what an instruction leaves for both ways of
carrying it out; for a straight instruction it is enough to look at the instruction alone.
-/

namespace Chip8

/-- The instruction neither goes elsewhere nor skips nor waits. -/
def Instruction.isStraight : Instruction → Bool
  | .ret | .jump _ | .call _ | .jumpOffset _ | .skipIfByte _ _ | .skipUnlessByte _ _
  | .skipIfSame _ _ | .skipIfDiffer _ _ | .skipIfHeld _ | .skipUnlessHeld _ | .awaitKey _ => false
  | _ => true

namespace Machine

/-- Carrying out an instruction goes well, and the machine that it leaves has a property. So does every
step that finds the instruction: it leaves such a machine, but that the counter has moved past the
instruction and that the timers have been updated. -/
structure Ensures (m : Machine) (ins : Instruction) (P : Machine → Prop) : Prop where
  execute : ∀ address, ∃ redraw,
    (m.execute address ins).answer = .ok redraw ∧ P (m.execute address ins).machine
  step : m.Finds ins → ∀ now, ∃ next status, P next ∧ (m.step now).answer = .ok status ∧
    (m.step now).machine = { next with pc := m.pc + 2, timers := (next.timers.update now).1 }

/-- A straight instruction goes well wherever it is carried out, and leaves the counter alone. -/
theorem execute_of_isStraight (m : Machine) {ins : Instruction} (h : ins.isStraight = true) :
    ∃ redraw, ∀ pc address, { m with pc := pc }.execute address ins =
      ⟨{ (m.execute m.pc ins).machine with pc := pc }, .ok redraw, []⟩ := by
  cases ins with
  | ret | jump _ | call _ | jumpOffset _ | skipIfByte _ _ | skipUnlessByte _ _ | skipIfSame _ _
  | skipIfDiffer _ _ | skipIfHeld _ | skipUnlessHeld _ | awaitKey _ => cases h
  | _ => exact ⟨_, fun _ _ => rfl⟩

theorem ensures_of_isStraight {m : Machine} {ins : Instruction} (h : ins.isStraight = true)
    {P : Machine → Prop} (hP : P (m.execute m.pc ins).machine) : m.Ensures ins P := by
  obtain ⟨redraw, hexecute⟩ := m.execute_of_isStraight h
  have hhere : ∀ address, m.execute address ins =
      ⟨{ (m.execute m.pc ins).machine with pc := m.pc }, .ok redraw, []⟩ := hexecute m.pc
  constructor
  case execute =>
    intro address
    have hsame : m.execute address ins = m.execute m.pc ins :=
      (hhere address).trans (hhere m.pc).symm
    refine ⟨redraw, ?_, ?_⟩
    · rw [hhere]
    · rw [hsame]
      exact hP
  case step =>
    intro hfinds now
    have hadvance : m.advance.execute m.pc ins =
        ⟨{ (m.execute m.pc ins).machine with pc := m.pc + 2 }, .ok redraw, []⟩ :=
      hexecute (m.pc + 2) m.pc
    have hanswer : (m.advance.answerOf m.pc ins).isOk := by
      rw [← answer_execute, hadvance]
      rfl
    have hcarries := hfinds.carriesOut hanswer now
    obtain ⟨status, hstatus⟩ := hcarries.2
    refine ⟨_, status, hP, hstatus, ?_⟩
    rw [hcarries.machine_step, hadvance]

end Machine

end Chip8
