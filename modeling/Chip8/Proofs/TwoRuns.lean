import Chip8.Proofs.Stepping

/-!
# Two machines side by side

Two machines that are related in some way do the same as far as the relation lets it
show. A step of both is reduced to its parts here: it keeps a relation that the move of
the counter, the instructions and the settling of the timers keep.
-/

namespace Chip8

/-- Two outcomes leave related machines, report the same, and give the same answer as far as `f`
shows it; a fault shows in full. -/
structure Outcome.Related {α β : Type} (R : Machine → Machine → Prop) (f : α → β)
    (o p : Outcome α) : Prop where
  machine : R o.machine p.machine
  answer : o.answer.map f = p.answer.map f
  log : o.log = p.log

/-- Related outcomes stay related in another form of answer, if what shows of the new answer depends
on what shows of the old one. -/
theorem Outcome.Related.map {α β γ δ : Type} {R : Machine → Machine → Prop} {f : α → β}
    {o p : Outcome α} (h : o.Related R f p) {g : α → γ} {shown : γ → δ} {k : β → δ}
    (hshown : ∀ a, shown (g a) = k (f a)) : (o.map g).Related R shown (p.map g) := by
  have hanswer : ∀ answer : Except Fault α,
      (answer.map g).map shown = (answer.map f).map k := by
    intro answer
    cases answer with
    | error fault => rfl
    | ok a => exact congrArg Except.ok (hshown a)
  refine ⟨h.machine, ?_, h.log⟩
  simp only [Outcome.map]
  rw [hanswer, hanswer, h.answer]

namespace Machine

/-- The outcomes of a list of operations, in order, each done whether or not the one before went
well. -/
def outcomes (m : Machine) : List Operation → List (Outcome Reply)
  | [] => []
  | op :: ops => m.perform op :: (m.perform op).machine.outcomes ops

theorem step_related {β : Type} {R : Machine → Machine → Prop} {f : Status → β} {m n : Machine}
    {now later : Instant} (hpc : n.pc = m.pc) (hfetched : n.fetched = m.fetched) (hsame : R m n)
    (hadvance : R m.advance n.advance)
    (hexecute : ∀ ins, m.pc.toNat < 0xFFE → Instruction.decode? m.fetched = some ins →
      (m.advance.execute m.pc ins).Related R id (n.advance.execute m.pc ins))
    (hsettle : ∀ next other redraw, R next other →
      R (next.settle now redraw).1 (other.settle later redraw).1 ∧
        f (next.settle now redraw).2 = f (other.settle later redraw).2) :
    (m.step now).Related R f (n.step later) := by
  by_cases hcounter : m.pc.toNat < 0xFFE
  · have hcounter' : n.pc.toNat < 0xFFE := by rw [hpc]; exact hcounter
    cases hword : Instruction.decode? m.fetched with
    | none =>
        have hword' : Instruction.decode? n.fetched = none := by rw [hfetched]; exact hword
        rw [step_of_undecoded hcounter hword, step_of_undecoded hcounter' hword', hpc, hfetched]
        exact ⟨hadvance, rfl, rfl⟩
    | some ins =>
        have hword' : Instruction.decode? n.fetched = some ins := by rw [hfetched]; exact hword
        have hrelated := hexecute ins hcounter hword
        rw [step_of_decode? hcounter hword, step_of_decode? hcounter' hword', hpc, hfetched]
        generalize m.advance.execute m.pc ins = left at hrelated ⊢
        generalize n.advance.execute m.pc ins = right at hrelated ⊢
        obtain ⟨next, answer, log⟩ := left
        obtain ⟨other, answer', log'⟩ := right
        obtain ⟨hmachine, hanswer, rfl⟩ := hrelated
        cases answer with
        | error fault =>
            cases answer' with
            | error fault' =>
                obtain rfl := Except.error.inj hanswer
                exact ⟨hmachine, rfl, rfl⟩
            | ok redraw => cases hanswer
        | ok redraw =>
            cases answer' with
            | error fault => cases hanswer
            | ok redraw' =>
                obtain rfl : redraw = redraw' := Except.ok.inj hanswer
                obtain ⟨hsettled, hstatus⟩ := hsettle next other redraw hmachine
                exact ⟨hsettled, congrArg Except.ok hstatus, rfl⟩
  · have hcounter : 0xFFE ≤ m.pc.toNat := Nat.not_lt.mp hcounter
    have hcounter' : 0xFFE ≤ n.pc.toNat := by rw [hpc]; exact hcounter
    rw [step_of_runaway hcounter, step_of_runaway hcounter', hpc]
    exact ⟨hsame, rfl, rfl⟩

end Machine

end Chip8
