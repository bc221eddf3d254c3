import Chip8.Proofs.TwoRuns

/-!
# Going back to power-on

A reset sets up the parts of a machine one after the other. What can be seen of a
machine later on depends on each of them, the hidden ones included, but not on the
slots of the stack that are not live. `Agrees` leaves out these slots alone, and every
operation keeps it, so machines that agree cannot be told apart by any history. A reset
machine agrees with a new one.
-/

namespace Chip8

namespace Machine

/-- What can be seen of a machine from outside. -/
structure View where
  pc : Word
  i : Word
  v : List Byte
  depth : Nat
  delay : Byte
  sound : Byte
  memory : List Byte
  cells : List Byte

def view (m : Machine) : View where
  pc := m.pc
  i := m.i
  v := m.v.toList
  depth := m.stack.depth
  delay := m.timers.delay
  sound := m.timers.sound
  memory := m.memory.bytes.toList
  cells := m.screen.cells

/-- Two machines answer every operation in the same way and look the same after every history. -/
def Indistinguishable (m n : Machine) : Prop :=
  ∀ ops, (m.afterAll ops).view = (n.afterAll ops).view ∧
    ∀ op, ((m.afterAll ops).perform op).answer = ((n.afterAll ops).perform op).answer ∧
      ((m.afterAll ops).perform op).log = ((n.afterAll ops).perform op).log

/-- The second machine is the first one but for the slots of the stack that are not live. -/
inductive Agrees (m : Machine) : Machine → Prop
  | stack (s : CallStack) (hlive : m.stack.toList = s.toList) : Agrees m { m with stack := s }

end Machine

/-- Two outcomes give the same answer and log, and leave machines that agree. -/
abbrev Outcome.Agrees {α : Type} (o p : Outcome α) : Prop := o.Related Machine.Agrees id p

theorem Outcome.Agrees.answer_eq {α : Type} {o p : Outcome α} (h : o.Agrees p) :
    o.answer = p.answer := by
  have hanswer := h.answer
  rwa [Except.map_id, id_eq, id_eq] at hanswer

namespace Machine

theorem Agrees.view_eq {m n : Machine} (h : m.Agrees n) : m.view = n.view := by
  cases h with
  | stack s hlive =>
      simp only [view, CallStack.depth_eq_of_toList hlive]

theorem Agrees.execute {m n : Machine} (h : m.Agrees n) (address : Word) (ins : Instruction) :
    (m.execute address ins).Agrees (n.execute address ins) := by
  cases h with
  | stack s hlive =>
  cases ins with
  | ret =>
      have hpop : m.stack.pop?.map (fun p => (p.1, p.2.toList)) =
          s.pop?.map fun p => (p.1, p.2.toList) := by
        rw [CallStack.map_toList_pop?, CallStack.map_toList_pop?, hlive]
      simp only [Machine.execute, executeReturn]
      cases hm : m.stack.pop? with
      | none =>
          rw [hm] at hpop
          rw [Option.map_eq_none_iff.mp hpop.symm]
          exact ⟨.stack s hlive, rfl, rfl⟩
      | some p =>
          rw [hm] at hpop
          obtain ⟨⟨other, u⟩, hs, hequal⟩ := Option.map_eq_some_iff.mp hpop.symm
          obtain ⟨rfl, hrest⟩ := Prod.mk.inj hequal
          rw [hs]
          exact ⟨.stack u hrest.symm, rfl, rfl⟩
  | call target =>
      have hpush : (m.stack.push? m.pc).map CallStack.toList =
          (s.push? m.pc).map CallStack.toList := by
        rw [CallStack.map_toList_push?, CallStack.map_toList_push?, hlive]
      simp only [Machine.execute, executeCall]
      cases hm : m.stack.push? m.pc with
      | none =>
          rw [hm] at hpush
          rw [Option.map_eq_none_iff.mp hpush.symm]
          exact ⟨.stack s hlive, rfl, rfl⟩
      | some t =>
          rw [hm] at hpush
          obtain ⟨u, hs, hu⟩ := Option.map_eq_some_iff.mp hpush.symm
          have hdepth := CallStack.depth_eq_of_toList hu
          simp only [hs, hdepth]
          exact ⟨.stack u hu.symm, rfl, rfl⟩
  | skipIfByte _ _ | skipUnlessByte _ _ | skipIfSame _ _ | skipIfDiffer _ _ | skipIfHeld _
  | skipUnlessHeld _ =>
      simp only [Machine.execute, skipIf_eq]
      exact ⟨.stack s hlive, rfl, rfl⟩
  | awaitKey x =>
      simp only [Machine.execute, executeAwaitKey]
      cases m.keys.first? with
      | none => exact ⟨.stack s hlive, rfl, rfl⟩
      | some key => exact ⟨.stack s hlive, rfl, rfl⟩
  | _ => exact ⟨.stack s hlive, rfl, rfl⟩

theorem Agrees.settle {m n : Machine} (h : m.Agrees n) (now : Instant) (redraw : Bool) :
    (m.settle now redraw).1.Agrees (n.settle now redraw).1 ∧
      (m.settle now redraw).2 = (n.settle now redraw).2 := by
  cases h with
  | stack s hlive => exact ⟨.stack s hlive, rfl⟩

theorem Agrees.step {m n : Machine} (h : m.Agrees n) (now : Instant) :
    (m.step now).Agrees (n.step now) := by
  have hadvance : m.advance.Agrees n.advance := by
    cases h with
    | stack s hlive => exact .stack s hlive
  refine step_related (by cases h; rfl) (by cases h; rfl) h hadvance ?_ ?_
  · exact fun ins _ _ => hadvance.execute m.pc ins
  · exact fun _ _ redraw hnext => hnext.settle now redraw

theorem Agrees.load {m n : Machine} (h : m.Agrees n) (source : ByteSource) :
    (m.load source).Agrees (n.load source) := by
  cases h with
  | stack s hlive =>
  simp only [Machine.load]
  cases m.memory.loadProgram source with
  | mk memory answer =>
  cases answer with
  | ok size => exact ⟨.stack s hlive, rfl, rfl⟩
  | error fault => exact ⟨.stack s hlive, rfl, rfl⟩

theorem Agrees.reset {m n : Machine} (h : m.Agrees n) (now : Instant) :
    (m.reset now).Agrees (n.reset now) := by
  rw [reset_eq, reset_eq]
  cases h with
  | stack s hlive => exact ⟨.stack CallStack.empty rfl, rfl, rfl⟩

/-- Every operation, done on two machines that agree, has outcomes that agree. -/
theorem Agrees.perform {m n : Machine} (h : m.Agrees n) (op : Operation) :
    (m.perform op).Agrees (n.perform op) := by
  cases op with
  | load source => exact (h.load source).map fun _ => rfl
  | reset now => exact (h.reset now).map (k := fun _ => Reply.changed) fun _ => rfl
  | step now => exact (h.step now).map fun _ => rfl
  | key key down =>
      cases h with
      | stack s hlive => exact ⟨.stack s hlive, rfl, rfl⟩
  | releaseKeys =>
      cases h with
      | stack s hlive => exact ⟨.stack s hlive, rfl, rfl⟩

theorem Agrees.afterAll {m n : Machine} (h : m.Agrees n) (ops : List Operation) :
    (m.afterAll ops).Agrees (n.afterAll ops) := by
  induction ops generalizing m n with
  | nil => exact h
  | cons op ops ih =>
      rw [afterAll_cons, afterAll_cons]
      exact ih (h.perform op).machine

theorem Agrees.indistinguishable {m n : Machine} (h : m.Agrees n) : m.Indistinguishable n := by
  intro ops
  have hafter := h.afterAll ops
  constructor
  · exact hafter.view_eq
  · intro op
    exact ⟨(hafter.perform op).answer_eq, (hafter.perform op).log⟩

theorem agrees_reset (m : Machine) (now : Instant) :
    (m.reset now).machine.Agrees (start m.keys m.random now) := by
  simp only [reset, Memory.loadFont_bytes, Framebuffer.clear_eq_blank]
  exact .stack CallStack.empty rfl

/-- A reset goes well on every machine, and the machine it leaves cannot be told from a new one that
has the same keys, goes on with the same random source and was made at the time of the reset. -/
theorem reset_indistinguishable (m : Machine) (now : Instant) :
    (m.reset now).answer = .ok () ∧
      Indistinguishable (m.reset now).machine (start m.keys m.random now) := by
  refine ⟨?_, (m.agrees_reset now).indistinguishable⟩
  rw [reset_eq]

end Machine

end Chip8
