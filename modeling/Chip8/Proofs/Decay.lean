import Mathlib.Data.List.Chain
import Chip8.Proofs.Stepping

/-!
# How fast the timers decay

The timers see two kinds of events: updates at given instants, which may make them
decay, and assignments. Whatever the instants, two decays are at least a period apart,
and a timer is its last assigned value less the decays since. If the clock never goes
back and is read often enough, the decays keep up with it but for a drift of less than a
gap between two readings for each of them. A step that goes well assigns what its
instruction assigns and then updates once; a step that fails does neither.
-/

namespace Chip8

/-- One of the two timers. -/
inductive Timer where
  | delay
  | sound
  deriving DecidableEq

/-- Something that happens to the timers. -/
inductive TimerEvent where
  /-- Both are updated at an instant. -/
  | update (now : Instant)
  /-- One of them is set. -/
  | assign (timer : Timer) (b : Byte)
  deriving DecidableEq

/-- The instants of the updates among the events, in order. -/
def TimerEvent.instants (events : List TimerEvent) : List Instant :=
  events.filterMap fun
    | .update now => some now
    | .assign _ _ => none

/-- A period has not gone by before its end. -/
theorem Instant.elapsed_lt_iff {start stop : Int} {n : Nat} (hn : 0 < n) :
    Instant.elapsed start stop < n ↔ stop < start + n := by
  unfold elapsed
  omega

namespace Timers

theorem period_pos : 0 < period := by decide

/-- The value of a timer. -/
def value (t : Timers) : Timer → Byte
  | .delay => t.delay
  | .sound => t.sound

/-- The timers after an event. -/
def perform (t : Timers) : TimerEvent → Timers
  | .update now => (t.update now).1
  | .assign .delay b => { t with delay := b }
  | .assign .sound b => { t with sound := b }

/-- The instant at which an event makes the timers decay, if it does. -/
def decay? (t : Timers) : TimerEvent → Option Instant
  | .update now => if (t.update now).2 then some now else none
  | .assign _ _ => none

/-- The timers after a list of events, in order. -/
def afterAll (t : Timers) (events : List TimerEvent) : Timers := events.foldl perform t

/-- The instants at which a list of events makes the timers decay, in order. -/
def decays (t : Timers) : List TimerEvent → List Instant
  | [] => []
  | event :: events => (t.decay? event).toList ++ (t.perform event).decays events

@[simp] theorem afterAll_cons (t : Timers) (event : TimerEvent) (events : List TimerEvent) :
    t.afterAll (event :: events) = (t.perform event).afterAll events := rfl

theorem afterAll_append (t : Timers) (events more : List TimerEvent) :
    t.afterAll (events ++ more) = (t.afterAll events).afterAll more := by
  simp only [afterAll, List.foldl_append]

/-- The decays of a list of events are those of the first event before those of the others. The
first event makes the timers decay if it is an update a period or more after the last decay. -/
inductive EventOutcome (t : Timers) (events : List TimerEvent) : TimerEvent → Prop
  | decayed {now : Int} (hdue : t.lastDecay + period ≤ now)
      (hdecays : t.decays (.update now :: events) =
        now :: decays ⟨countDown t.delay, countDown t.sound, now⟩ events)
      (hafter : t.perform (.update now) = ⟨countDown t.delay, countDown t.sound, now⟩) :
      EventOutcome t events (.update now)
  | early {now : Int} (hearly : now < t.lastDecay + period)
      (hdecays : t.decays (.update now :: events) = t.decays events)
      (hafter : t.perform (.update now) = t) : EventOutcome t events (.update now)
  | assigned {timer : Timer} {b : Byte}
      (hdecays : t.decays (.assign timer b :: events) =
        (t.perform (.assign timer b)).decays events)
      (hlast : (t.perform (.assign timer b)).lastDecay = t.lastDecay) :
      EventOutcome t events (.assign timer b)

theorem event_outcome (t : Timers) (event : TimerEvent) (events : List TimerEvent) :
    EventOutcome t events event := by
  cases event with
  | assign timer b =>
      refine .assigned rfl ?_
      cases timer <;> rfl
  | update now =>
      by_cases hearly : t.lastDecay.elapsed now < period
      · have hupdate : t.update now = (t, false) := if_pos hearly
        refine .early ((Instant.elapsed_lt_iff period_pos).mp hearly) ?_ ?_
        · simp [decays, decay?, perform, hupdate]
        · simp only [perform, hupdate]
      · have hupdate : t.update now = (⟨countDown t.delay, countDown t.sound, now⟩, true) :=
          if_neg hearly
        rw [Instant.elapsed_lt_iff period_pos] at hearly
        refine .decayed (Int.not_lt.mp hearly) ?_ ?_
        · simp [decays, decay?, perform, hupdate]
        · simp only [perform, hupdate]

/-! ## The distance between decays -/

/-- Successive decays are at least a period apart, the first one from the instant from which it was
counted. -/
theorem isChain_decays (t : Timers) (events : List TimerEvent) :
    List.IsChain (fun a b : Instant => a + period ≤ b) (t.lastDecay :: t.decays events) := by
  induction events generalizing t with
  | nil => exact .singleton _
  | cons event events ih =>
      have hrest := ih (t.perform event)
      cases t.event_outcome event events with
      | decayed hdue hdecays hafter =>
          rw [hafter] at hrest
          rw [hdecays]
          exact .cons_cons hdue hrest
      | early _ hdecays hafter =>
          rw [hafter] at hrest
          rw [hdecays]
          exact hrest
      | assigned hdecays hlast =>
          rw [hlast] at hrest
          rw [hdecays]
          exact hrest

/-- The next decay is counted from the last one. -/
theorem getLast_decays (t : Timers) (events : List TimerEvent) :
    (t.lastDecay :: t.decays events).getLast (List.cons_ne_nil _ _) =
      (t.afterAll events).lastDecay := by
  induction events generalizing t with
  | nil => rfl
  | cons event events ih =>
      rw [afterAll_cons, ← ih]
      cases t.event_outcome event events with
      | decayed _ hdecays hafter => simp only [hdecays, hafter, List.getLast_cons_cons]
      | early _ hdecays hafter => simp only [hdecays, hafter]
      | assigned hdecays hlast => simp only [hdecays, hlast]

/-- Instants that are a period apart take a period each. -/
theorem length_mul_period_le {first : Int} {rest : List Int}
    (h : List.IsChain (fun a b : Int => a + period ≤ b) (first :: rest)) :
    (rest.length * period : Int) ≤ (first :: rest).getLast (List.cons_ne_nil _ _) - first := by
  induction rest generalizing first with
  | nil => simp
  | cons second rest ih =>
      obtain ⟨hfirst, hrest⟩ := List.isChain_cons_cons.mp h
      have hle := ih hrest
      rw [List.getLast_cons_cons, List.length_cons, Int.natCast_add, Int.add_mul]
      omega

/-- On a clock that never goes back and is read at least every `gap`, the decays keep up with the
clock. Between readings, the last reading is less than a period after the last decay. -/
theorem last_instant_lt (t : Timers) (events : List TimerEvent) {gap last : Int}
    (hlow : t.lastDecay ≤ last) (hhigh : last < t.lastDecay + period)
    (hsteady : List.IsChain (fun a b : Int => a ≤ b ∧ b ≤ a + gap)
      (last :: TimerEvent.instants events)) :
    (last :: TimerEvent.instants events).getLast (List.cons_ne_nil _ _) - t.lastDecay <
      (t.decays events).length * (period + gap) + period := by
  induction events generalizing t last with
  | nil =>
      simp [TimerEvent.instants, decays]
      omega
  | cons event events ih =>
      cases t.event_outcome event events with
      | @decayed now hdue hdecays hafter =>
          obtain ⟨⟨hforward, hgap⟩, hrest⟩ := List.isChain_cons_cons.mp hsteady
          have hlt := ih ⟨countDown t.delay, countDown t.sound, now⟩ (Int.le_refl now)
            (Int.lt_add_of_pos_right _ (Int.natCast_pos.mpr period_pos)) hrest
          simp only at hlt
          rw [hdecays, List.length_cons, Int.natCast_add, Int.add_mul]
          change (last :: now :: TimerEvent.instants events).getLast _ - _ < _
          rw [List.getLast_cons_cons]
          omega
      | @early now hearly hdecays hafter =>
          obtain ⟨⟨hforward, hgap⟩, hrest⟩ := List.isChain_cons_cons.mp hsteady
          rw [hdecays]
          exact ih t (Int.le_trans hlow hforward) hearly hrest
      | assigned hdecays hlast =>
          have hlt := ih (t.perform _) (hlast ▸ hlow) (hlast ▸ hhigh) hsteady
          rw [hlast] at hlt
          rw [hdecays]
          exact hlt

/-! ## The values of the timers -/

/-- As long as a timer is not assigned, it drops by one at every decay and stays at zero. -/
theorem toNat_value_afterAll (t : Timers) {timer : Timer} {events : List TimerEvent}
    (hevents : ∀ b, TimerEvent.assign timer b ∉ events) :
    ((t.afterAll events).value timer).toNat =
      (t.value timer).toNat - (t.decays events).length := by
  induction events generalizing t with
  | nil => rfl
  | cons event events ih =>
      have hrest := ih (t.perform event) fun b hb => hevents b (List.mem_cons_of_mem _ hb)
      rw [afterAll_cons, hrest]
      cases t.event_outcome event events with
      | @decayed now _ hdecays hafter =>
          have hvalue : value ⟨countDown t.delay, countDown t.sound, now⟩ timer =
              countDown (t.value timer) := by cases timer <;> rfl
          rw [hdecays, hafter, hvalue, toNat_countDown, List.length_cons]
          omega
      | early _ hdecays hafter => rw [hdecays, hafter]
      | @assigned other b hdecays hlast =>
          have hother : other ≠ timer := fun h =>
            hevents b (h ▸ List.mem_cons_self ..)
          have hvalue : (t.perform (.assign other b)).value timer = t.value timer := by
            cases other with
            | delay =>
                cases timer with
                | delay => exact absurd rfl hother
                | sound => rfl
            | sound =>
                cases timer with
                | delay => rfl
                | sound => exact absurd rfl hother
          rw [hdecays, hvalue]

end Timers

/-! ## The timers of a machine -/

/-- The same outcome but for the timers of the machine. -/
def Outcome.withTimers {α : Type} (o : Outcome α) (t : Timers) : Outcome α :=
  { o with machine := { o.machine with timers := t } }

namespace Machine

/-- What an instruction assigns to the timers. -/
def assignments (m : Machine) : Instruction → List TimerEvent
  | .setDelay x => [.assign .delay (m.register x)]
  | .setSound x => [.assign .sound (m.register x)]
  | _ => []

/-- An instruction does the same under other timers, on which it makes the same assignments. Only
the value of the delay timer matters, and only where the instruction reads it. -/
theorem execute_withTimers (m : Machine) (t : Timers) (address : Word) (ins : Instruction)
    (hread : ∀ x, ins = .readDelay x → t.delay = m.timers.delay) :
    { m with timers := t }.execute address ins =
      (m.execute address ins).withTimers (t.afterAll (m.assignments ins)) := by
  cases ins with
  | ret =>
      simp only [execute, executeReturn]
      cases m.stack.pop? <;> rfl
  | call target =>
      simp only [execute, executeCall]
      cases m.stack.push? m.pc <;> rfl
  | awaitKey x =>
      simp only [execute, executeAwaitKey]
      cases m.keys.first? <;> rfl
  | skipIfByte _ _ | skipUnlessByte _ _ | skipIfSame _ _ | skipIfDiffer _ _ | skipIfHeld _
  | skipUnlessHeld _ =>
      simp only [execute, skipIf_eq]
      rfl
  | readDelay x =>
      simp only [execute, hread x rfl]
      rfl
  | _ => rfl

theorem timers_execute (m : Machine) (address : Word) (ins : Instruction) :
    (m.execute address ins).machine.timers = m.timers.afterAll (m.assignments ins) :=
  congrArg (fun o : Effect => o.machine.timers)
    (m.execute_withTimers m.timers address ins fun _ _ => rfl)

/-- A step that goes well updates the timers once, after the assignments of its instruction. -/
theorem timers_step_of_ok {m : Machine} {now : Instant} {status : Status}
    (h : (m.step now).answer = .ok status) :
    ∃ ins, m.CarriesOut now ins ∧
      (m.step now).machine.timers = m.timers.afterAll (m.assignments ins ++ [.update now]) := by
  cases hstep : m.step now with
  | mk next answer log =>
  have houtcome := m.step_outcome now
  rw [hstep] at h houtcome
  cases houtcome with
  | runaway _ | undecoded _ _ | refused _ _ _ => cases h
  | @finished ins redraw next log hpc hword heffect =>
      have hanswer := m.advance.answer_execute m.pc ins
      have htimers := m.advance.timers_execute m.pc ins
      rw [heffect] at hanswer htimers
      refine ⟨ins, carriesOut_of_isOk hpc hword (by rw [← hanswer]; rfl) now, ?_⟩
      rw [Timers.afterAll_append]
      change (next.timers.update now).1 = _
      rw [htimers]
      rfl

/-- A step that fails leaves the timers alone. -/
theorem timers_step_of_error {m : Machine} {now : Instant} {fault : Fault}
    (h : (m.step now).answer = .error fault) : (m.step now).machine.timers = m.timers := by
  cases hstep : m.step now with
  | mk next answer log =>
  have houtcome := m.step_outcome now
  rw [hstep] at h houtcome
  cases houtcome with
  | runaway _ | undecoded _ _ | refused _ _ _ => rfl
  | finished _ _ _ => cases h

/-- Timers that are started, with a machine or by a reset, decay at most once a period whatever the
instants of the updates, and count down from what they are assigned by one for each decay. On a clock
that never goes back and whose readings are at most `gap` apart, they decay often enough. A step
updates them once, after its instruction, or not at all if it fails. -/
theorem timers_decay_once_a_period (now : Instant) (events : List TimerEvent) :
    let started := Timers.start now
    let decays := started.decays events
    let ended := started.afterAll events
    let readings := now :: TimerEvent.instants events
    ((∀ keys random, (start keys random now).timers = started) ∧
      ∀ m : Machine, (m.reset now).machine.timers = started) ∧
    Timers.period = 16666666 ∧
    List.IsChain (fun a b : Instant => a + Timers.period ≤ b) (now :: decays) ∧
    (now :: decays).getLast (List.cons_ne_nil _ _) = ended.lastDecay ∧
    (decays.length * Timers.period : Int) ≤ ended.lastDecay - now ∧
    (∀ timer b since, (∀ c, TimerEvent.assign timer c ∉ since) →
      let assigned := ended.perform (.assign timer b)
      ((assigned.afterAll since).value timer).toNat =
        b.toNat - (assigned.decays since).length) ∧
    (∀ gap : Int, List.IsChain (fun a b : Instant => a ≤ b ∧ b ≤ a + gap) readings →
      readings.getLast (List.cons_ne_nil _ _) - now <
        decays.length * (Timers.period + gap) + Timers.period) ∧
    ∀ (m : Machine) (time : Instant),
      match (m.step time).answer with
      | .ok _ => ∃ ins, m.CarriesOut time ins ∧
          (m.step time).machine.timers = m.timers.afterAll (m.assignments ins ++ [.update time])
      | .error _ => (m.step time).machine.timers = m.timers := by
  intro started decays ended readings
  have hchain := started.isChain_decays events
  have hlast := started.getLast_decays events
  refine ⟨⟨fun _ _ => rfl, fun m => by rw [reset_eq]; rfl⟩, rfl, hchain, hlast, ?_, ?_, ?_, ?_⟩
  · rw [← hlast]
    exact Timers.length_mul_period_le hchain
  · intro timer b since hsince assigned
    have hassigned : assigned.value timer = b := by cases timer <;> rfl
    rw [Timers.toNat_value_afterAll _ hsince, hassigned]
  · intro gap hsteady
    exact started.last_instant_lt events (Int.le_refl _)
      (Int.lt_add_of_pos_right _ (Int.natCast_pos.mpr Timers.period_pos)) hsteady
  · intro m time
    split
    next hanswer => exact timers_step_of_ok hanswer
    next hanswer => exact timers_step_of_error hanswer

/-- Updates ten milliseconds apart, after an assignment. -/
def everyTenMilliseconds : List TimerEvent :=
  [.assign .delay 2, .update 10000000, .update 20000000, .update 30000000]

theorem timers_decay_once_a_period_everyTenMilliseconds :
    let ended := (Timers.start 0).afterAll everyTenMilliseconds
    (Timers.start 0).decays everyTenMilliseconds = [20000000] ∧
      (30000000 : Int) - 0 < 1 * (Timers.period + 10000000) + Timers.period ∧
      (((ended.perform (.assign .sound 3)).afterAll
        [.assign .delay 9, .update 40000000]).value .sound).toNat = 3 - 1 := by
  intro ended
  obtain ⟨-, -, -, -, -, hvalue, hkeepsUp, -⟩ := timers_decay_once_a_period 0 everyTenMilliseconds
  refine ⟨by decide, ?_, ?_⟩
  · have hsteady : List.IsChain (fun a b : Instant => a ≤ b ∧ b ≤ a + 10000000)
        (0 :: TimerEvent.instants everyTenMilliseconds) := by decide
    exact hkeepsUp 10000000 hsteady
  · exact hvalue .sound 3 [.assign .delay 9, .update 40000000] (by simp)

end Machine

end Chip8
