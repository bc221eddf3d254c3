import Mathlib.Algebra.Ring.Parity
import Chip8.Proofs.KeyHold
import Chip8.Proofs.LoopAccess

/-!
# Pauses and single steps

The user pauses the machine and asks for single steps; the run loop asks before every instruction
whether it may run. Requests are not counted: one flag stands for all of them, and only a question
that is asked while the machine is paused takes it back. `marks` is what a history of events and
questions comes to, and `Tallied` reads the two flags off it; every event and every question keeps
it. The question takes two looks at the flags, and events may come between them.
-/

namespace Chip8

/-- What an event does to the controls. -/
def InputEvent.steer (c : Controls) : InputEvent → Controls
  | .key _ => c
  | .pause => { c with paused := !c.paused }
  | .step => { c with stepOnce := true }
  | .quit => { c with quit := true }

/-- The event that the input brings to a turn of the pump, if it brings one. -/
def PumpCall.event? (c : PumpCall) : Option InputEvent :=
  match c.reading with
  | .ok event => event
  | .error _ => none

/-- What happens to the controls. -/
inductive Exchange where
  /-- A turn of the pump. -/
  | pump (c : PumpCall)
  /-- The run loop asks whether an instruction may run, with the turns of the pump that come between
  its look whether the machine is paused and whatever it does next. -/
  | ask (meanwhile : List PumpCall)

/-- What a history is judged by. -/
inductive Mark where
  /-- The pump has delivered an event. -/
  | delivered (event : InputEvent)
  /-- An instruction may run although the machine is paused. -/
  | granted
  deriving DecidableEq

/-- A single step has been asked for since an instruction was last granted while the machine was
paused. -/
def Mark.Requested (marks : List Mark) : Prop :=
  ∃ before after, marks = before ++ .delivered .step :: after ∧ .granted ∉ after

namespace Pump

/-! ## What the pump does to the controls -/

theorem controls_take (p : Pump) (now : Instant) (s : Shared) (event : InputEvent) :
    (p.take now s event).2.1.controls = event.steer s.controls := by
  cases event <;> rfl

theorem controls_expire (now : Instant) (state : Pump × Shared) (key : Key) :
    (expire now state key).2.controls = state.2.controls := by
  unfold expire
  split <;> rfl

theorem controls_expireAll (p : Pump) (now : Instant) (s : Shared) :
    (p.expireAll now s).2.controls = s.controls := by
  have hkeys : ∀ (keys : List Key) (state : Pump × Shared),
      (keys.foldl (expire now) state).2.controls = state.2.controls := by
    intro keys
    induction keys with
    | nil => exact fun _ => rfl
    | cons key keys ih => exact fun state => (ih _).trans (controls_expire now state key)
  rw [expireAll, hkeys]

/-- A turn carries out the event that the input brings, and otherwise leaves the controls alone. -/
theorem controls_turn (p : Pump) (s : Shared) (c : PumpCall) :
    (p.turn c.now c.reading s).shared.controls =
      c.event?.elim s.controls fun event => event.steer s.controls := by
  obtain ⟨now, reading⟩ := c
  cases reading with
  | error reason => rfl
  | ok event =>
      have hturn := congrArg (fun state : Pump × Shared => state.2.controls) (p.turn_ok now s event)
      simp only [controls_expireAll] at hturn
      rw [hturn]
      cases event with
      | none => rfl
      | some event => exact p.controls_take now s event

/-! ## Questions -/

/-- The run loop asks whether an instruction may run: it looks whether the machine is paused, and if
so takes a pending step. The pump takes some turns in between. -/
def ask (state : Pump × Shared) (meanwhile : List PumpCall) : Bool × Pump × Shared :=
  let later := afterAll state meanwhile
  if state.2.controls.paused then
    let (granted, controls) := later.2.controls.takeStep
    (granted, later.1, { later.2 with controls := controls })
  else (true, later)

/-- A question that nothing comes between is the one that `Controls.mayStep` answers. -/
theorem ask_nil (p : Pump) (s : Shared) :
    ask (p, s) [] = (s.controls.mayStep.1, p, { s with controls := s.controls.mayStep.2 }) := by
  cases hpaused : s.controls.paused with
  | true => simp [ask, afterAll, hpaused, Controls.takeStep]
  | false => simp [ask, afterAll, hpaused]

theorem ask_of_running {state : Pump × Shared} (h : state.2.controls.paused = false)
    (meanwhile : List PumpCall) : ask state meanwhile = (true, afterAll state meanwhile) := by
  simp only [ask, h, Bool.false_eq_true, if_false]

theorem ask_of_paused {state : Pump × Shared} (h : state.2.controls.paused = true)
    (meanwhile : List PumpCall) :
    ask state meanwhile =
      let later := afterAll state meanwhile
      (later.2.controls.stepOnce, later.1,
        { later.2 with controls := { later.2.controls with stepOnce := false } }) := by
  simp only [ask, h, if_true, Controls.takeStep]

/-! ## Histories -/

/-- The pump and what it shares after one exchange. -/
def exchange (state : Pump × Shared) : Exchange → Pump × Shared
  | .pump c => afterAll state [c]
  | .ask meanwhile => (ask state meanwhile).2

/-- The pump and what it shares after a history, in order. -/
def afterExchanges (state : Pump × Shared) (history : List Exchange) : Pump × Shared :=
  history.foldl exchange state

/-- The marks of some turns of the pump. -/
def deliveries (calls : List PumpCall) : List Mark :=
  (calls.filterMap PumpCall.event?).map .delivered

/-- The marks of one exchange. -/
def marksOf (state : Pump × Shared) : Exchange → List Mark
  | .pump c => deliveries [c]
  | .ask meanwhile =>
    deliveries meanwhile ++
      if state.2.controls.paused && (ask state meanwhile).1 then [.granted] else []

/-- The marks of a history, in order. -/
def marks (state : Pump × Shared) : List Exchange → List Mark
  | [] => []
  | x :: rest => marksOf state x ++ marks (exchange state x) rest

end Pump

namespace Mark

theorem not_requested_nil : ¬ Requested [] := by
  rintro ⟨before, after, hsplit, -⟩
  simp at hsplit

theorem requested_snoc_iff {marks : List Mark} {mark : Mark} :
    Requested (marks ++ [mark]) ↔
      mark = .delivered .step ∨ mark ≠ .granted ∧ Requested marks := by
  constructor
  · rintro ⟨before, after, hsplit, hafter⟩
    cases after using List.reverseRecOn with
    | nil =>
        obtain ⟨-, hlast⟩ := List.append_inj' hsplit rfl
        exact .inl (List.singleton_inj.mp hlast)
    | append_singleton after last =>
        rw [← List.cons_append, ← List.append_assoc] at hsplit
        obtain ⟨rfl, hlast⟩ := List.append_inj' hsplit rfl
        obtain rfl := List.singleton_inj.mp hlast
        rw [List.mem_append, List.mem_singleton, not_or] at hafter
        exact .inr ⟨Ne.symm hafter.2, before, after, rfl, hafter.1⟩
  · rintro (rfl | ⟨hmark, before, after, rfl, hafter⟩)
    · exact ⟨marks, [], rfl, List.not_mem_nil⟩
    · refine ⟨before, after ++ [mark], by simp, ?_⟩
      rw [List.mem_append, List.mem_singleton, not_or]
      exact ⟨hafter, Ne.symm hmark⟩

end Mark

/-- The flags are what the marks say: the machine is paused if it was so at first and the pause has
been switched an even number of times, or the other way round, and a step is pending if one has been
asked for since the last grant. Each grant has taken back a request of its own. -/
structure Tallied (paused : Bool) (marks : List Mark) (c : Controls) : Prop where
  paused : c.paused = (paused ^^ decide (Odd (marks.count (.delivered .pause))))
  pending : c.stepOnce = true ↔ Mark.Requested marks
  bounded : marks.count .granted + c.stepOnce.toNat ≤ marks.count (.delivered .step)

namespace Tallied

variable {paused : Bool} {marks : List Mark} {c : Controls}

theorem start (h : c.stepOnce = false) : Tallied c.paused [] c where
  paused := by simp
  pending := by simp [h, Mark.not_requested_nil]
  bounded := by simp [h]

theorem deliver (h : Tallied paused marks c) (event : InputEvent) :
    Tallied paused (marks ++ [.delivered event]) (event.steer c) := by
  have hpaused := h.paused
  have hpending := h.pending
  have hbounded := h.bounded
  cases event with
  | key number =>
      constructor
      · simpa [InputEvent.steer, List.count_append] using hpaused
      · simpa [InputEvent.steer, Mark.requested_snoc_iff] using hpending
      · simpa [InputEvent.steer, List.count_append] using hbounded
  | pause =>
      constructor
      · simp only [InputEvent.steer, List.count_append, List.count_singleton_self,
          Nat.odd_add_one, hpaused, decide_not, Bool.xor_not]
      · simpa [InputEvent.steer, Mark.requested_snoc_iff] using hpending
      · simpa [InputEvent.steer, List.count_append] using hbounded
  | step =>
      constructor
      · simpa [InputEvent.steer, List.count_append] using hpaused
      · simp [InputEvent.steer, Mark.requested_snoc_iff]
      · -- A request that finds the flag set is not counted twice.
        have hone := Bool.toNat_le c.stepOnce
        simp [InputEvent.steer, List.count_append]
        omega
  | quit =>
      constructor
      · simpa [InputEvent.steer, List.count_append] using hpaused
      · simpa [InputEvent.steer, Mark.requested_snoc_iff] using hpending
      · simpa [InputEvent.steer, List.count_append] using hbounded

theorem grant (h : Tallied paused marks c) (hstep : c.stepOnce = true) :
    Tallied paused (marks ++ [.granted]) { c with stepOnce := false } where
  paused := by simpa [List.count_append] using h.paused
  pending := by simp [Mark.requested_snoc_iff]
  bounded := by
    have hbounded := h.bounded
    rw [hstep] at hbounded
    simpa [List.count_append] using hbounded

variable {state : Pump × Shared}

theorem pump (h : Tallied paused marks state.2.controls) (call : PumpCall) :
    Tallied paused (marks ++ Pump.deliveries [call])
      (state.1.turn call.now call.reading state.2).shared.controls := by
  rw [Pump.controls_turn, Pump.deliveries]
  cases hevent : call.event? with
  | none => simpa [hevent] using h
  | some event => simpa [hevent] using h.deliver event

theorem pumpAll (h : Tallied paused marks state.2.controls) (calls : List PumpCall) :
    Tallied paused (marks ++ Pump.deliveries calls) (Pump.afterAll state calls).2.controls := by
  induction calls using List.reverseRecOn with
  | nil => simpa [Pump.deliveries, Pump.afterAll] using h
  | append_singleton calls call ih =>
      have hsplit : Pump.deliveries (calls ++ [call]) =
          Pump.deliveries calls ++ Pump.deliveries [call] := by
        simp only [Pump.deliveries, List.filterMap_append, List.map_append]
      rw [Pump.afterAll_snoc, hsplit, ← List.append_assoc]
      exact ih.pump call

theorem ask (h : Tallied paused marks state.2.controls) (meanwhile : List PumpCall) :
    Tallied paused (marks ++ Pump.marksOf state (.ask meanwhile))
      (Pump.ask state meanwhile).2.2.controls := by
  have hlater := h.pumpAll meanwhile
  rw [Pump.marksOf, ← List.append_assoc]
  cases hpaused : state.2.controls.paused with
  | false =>
      rw [Pump.ask_of_running hpaused, Bool.false_and]
      simpa using hlater
  | true =>
      rw [Pump.ask_of_paused hpaused, Bool.true_and]
      cases hstep : (Pump.afterAll state meanwhile).2.controls.stepOnce with
      | true => simpa [hstep] using hlater.grant hstep
      | false =>
          -- The flag is put down although it was not up.
          have hsame : { (Pump.afterAll state meanwhile).2.controls with stepOnce := false } =
              (Pump.afterAll state meanwhile).2.controls := by
            rw [← hstep]
          simpa [hsame, hstep] using hlater

/-- Every exchange keeps the tally. -/
theorem exchange (h : Tallied paused marks state.2.controls) (x : Exchange) :
    Tallied paused (marks ++ Pump.marksOf state x) (Pump.exchange state x).2.controls := by
  cases x with
  | pump call => exact h.pumpAll [call]
  | ask meanwhile => exact h.ask meanwhile

theorem afterExchanges (h : Tallied paused marks state.2.controls) (history : List Exchange) :
    Tallied paused (marks ++ Pump.marks state history)
      (Pump.afterExchanges state history).2.controls := by
  induction history generalizing state marks with
  | nil => simpa [Pump.marks, Pump.afterExchanges] using h
  | cons x rest ih =>
      rw [Pump.marks, ← List.append_assoc]
      exact ih (h.exchange x)

end Tallied

namespace RunLoop

/-- The loop past its gate: it looks whether the machine is paused, and if so takes a pending step.
Others write to the keypad and the controls in between. -/
def passGate (s : Surroundings) (l : RunLoop) (write : Shared → Shared) : RunLoop :=
  let looked := (l.advance s).overwritten write
  match looked.point with
  | .stepRequest => looked.advance s
  | _ => looked

/-- At its gate the loop asks whether an instruction may run, and goes by the answer. -/
theorem passGate_eq_ask (s : Surroundings) {l : RunLoop} (h : l.point = .gate) (p : Pump)
    (meanwhile : List PumpCall) :
    let asked := Pump.ask (p, l.emulator.shared) meanwhile
    let gone := l.passGate s fun shared => (Pump.afterAll (p, shared) meanwhile).2
    gone.point = (if asked.1 then .instruction else .checking) ∧
      gone.emulator.shared = asked.2.2 := by
  obtain ⟨e, n, point⟩ := l
  obtain rfl : point = .gate := h
  cases hpaused : e.controls.paused with
  | false =>
      rw [Pump.ask_of_running hpaused]
      simp only [passGate, advance, hpaused]
      exact ⟨rfl, rfl⟩
  | true =>
      rw [Pump.ask_of_paused hpaused]
      simp only [passGate, advance, hpaused]
      exact ⟨rfl, rfl⟩

end RunLoop

namespace Pump

/-- From any pause flag on, with no step pending, through any events and questions in any order, and
with any events between the two looks of a question: the machine is paused if the pause has been
switched so; a question asked while it is not paused is answered with yes and leaves all requests as
they are; a question asked while it is paused is answered with yes if and only if a single step has
been asked for since the last question asked in a pause that was answered so, whether the machine was
paused then or not; and no more steps are granted in pauses than have been asked for. A question that
nothing comes between is that of `Controls.mayStep`, and the run loop at its gate asks and goes by
the answer. -/
theorem granted_iff_requested_since (first : Pump × Shared)
    (hclear : first.2.controls.stepOnce = false) (history : List Exchange) :
    let now := afterExchanges first history
    let made := marks first history
    now.2.controls.paused =
      (first.2.controls.paused ^^ decide (Odd (made.count (.delivered .pause)))) ∧
    (∀ meanwhile, now.2.controls.paused = false →
      ask now meanwhile = (true, afterAll now meanwhile)) ∧
    (∀ meanwhile, now.2.controls.paused = true →
      ((ask now meanwhile).1 = true ↔ Mark.Requested (made ++ deliveries meanwhile))) ∧
    made.count .granted ≤ made.count (.delivered .step) ∧
    ask now [] = (now.2.controls.mayStep.1, now.1,
      { now.2 with controls := now.2.controls.mayStep.2 }) ∧
    ∀ (s : Surroundings) (l : RunLoop), l.point = .gate → l.emulator.shared = now.2 →
      ∀ meanwhile,
        let gone := l.passGate s fun shared => (afterAll (now.1, shared) meanwhile).2
        gone.point = (if (ask now meanwhile).1 then .instruction else .checking) ∧
          gone.emulator.shared = (ask now meanwhile).2.2 := by
  intro now made
  have htally : Tallied first.2.controls.paused made now.2.controls :=
    (Tallied.start hclear).afterExchanges history
  refine ⟨htally.paused, ?_, ?_, ?_, ?_, ?_⟩
  · intro meanwhile hrunning
    exact ask_of_running hrunning meanwhile
  · intro meanwhile hpaused
    rw [ask_of_paused hpaused]
    exact (htally.pumpAll meanwhile).pending
  · exact Nat.le_of_add_right_le htally.bounded
  · exact ask_nil now.1 now.2
  · intro s l hgate hshared meanwhile
    have hgone := l.passGate_eq_ask s hgate now.1 meanwhile
    rw [hshared] at hgone
    exact hgone

/-- Nothing has been delivered yet, and the machine is running. -/
def running : Pump × Shared := (idle, ⟨Keypad.released, Controls.start false⟩)

/-- A step is asked for while the machine is running and is granted in the pause that follows. -/
def lateGrant : List Exchange :=
  [.pump ⟨0, .ok (some .step)⟩, .ask [], .pump ⟨1, .ok (some .pause)⟩, .ask []]

theorem granted_iff_requested_since_lateGrant :
    running.2.controls.stepOnce = false ∧
      (afterExchanges running lateGrant).2.controls.paused = true ∧
      marks running lateGrant = [.delivered .step, .delivered .pause, .granted] ∧
      (ask (afterExchanges running lateGrant) []).1 = false ∧
      (ask (afterExchanges running lateGrant) [⟨2, .ok (some .step)⟩]).1 = true := by
  have hpaused : (afterExchanges running lateGrant).2.controls.paused = true := by
    decide +kernel
  have hmarks : marks running lateGrant = [.delivered .step, .delivered .pause, .granted] := by
    decide +kernel
  have hgranted := (granted_iff_requested_since running rfl lateGrant).2.2.1
  refine ⟨rfl, hpaused, hmarks, ?_, ?_⟩
  · rw [Bool.eq_false_iff, ne_eq, hgranted [] hpaused, hmarks]
    intro hrequested
    have hlast :=
      (@Mark.requested_snoc_iff [.delivered .step, .delivered .pause] .granted).mp hrequested
    simp at hlast
  · rw [hgranted _ hpaused, hmarks]
    exact ⟨_, [], rfl, List.not_mem_nil⟩

end Pump

end Chip8
