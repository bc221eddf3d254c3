import Mathlib.Data.List.Infix
import Chip8.Proofs.Decay
import Chip8.Proofs.TwoRuns

/-!
# What the clock does not show in

Two machines whose timers differ do the same as long as the difference is out of the reach
of their programs. A `Tolerance` says which timers may stand for each other, which readings
of the clock, and what of a status is left out of the comparison; its laws say that
assignments, updates and resets keep within it. The clock as a whole is tolerated until a
program reads the delay timer, and the sound timer is tolerated throughout.
-/

namespace Chip8

/-- Two operations are the same but for the instants that they are given, which match. -/
inductive Operation.Matches (instants : Instant → Instant → Prop) : Operation → Operation → Prop
  | load (source : ByteSource) : Matches instants (.load source) (.load source)
  | reset {now later : Instant} (h : instants now later) :
      Matches instants (.reset now) (.reset later)
  | step {now later : Instant} (h : instants now later) :
      Matches instants (.step now) (.step later)
  | key (key : Key) (down : Bool) : Matches instants (.key key down) (.key key down)
  | releaseKeys : Matches instants .releaseKeys .releaseKeys

/-- A reply in which the status, if there is one, is seen through `f`. -/
def Reply.mapStatus (f : Status → Status) : Reply → Reply
  | stepped status => stepped (f status)
  | reply => reply

namespace Machine

/-- No step of the history reads the delay timer. -/
def NeverReadsDelay (m : Machine) (ops : List Operation) : Prop :=
  ∀ done now, done ++ [.step now] <+: ops → ∀ x, ¬ (m.afterAll done).CarriesOut now (.readDelay x)

variable {m : Machine} {op : Operation} {ops : List Operation}

theorem NeverReadsDelay.head {now : Instant} (h : m.NeverReadsDelay (.step now :: ops))
    {x : Nibble} : ¬ m.CarriesOut now (.readDelay x) :=
  h [] now ⟨ops, rfl⟩ x

theorem NeverReadsDelay.tail (h : m.NeverReadsDelay (op :: ops)) :
    (m.perform op).machine.NeverReadsDelay ops :=
  fun done now hdone => h (op :: done) now (List.cons_prefix_cons.mpr ⟨rfl, hdone⟩)

end Machine

/-- A difference that two machines may have in their timers. -/
structure Tolerance where
  /-- The timers that may stand for each other. -/
  timers : Timers → Timers → Prop
  /-- The instants that may stand for each other. -/
  instants : Instant → Instant → Prop
  /-- A status without what may differ. -/
  status : Status → Status
  start : ∀ {now later}, instants now later → timers (Timers.start now) (Timers.start later)
  assign : ∀ {t u}, timers t u → ∀ timer b,
    timers (t.perform (.assign timer b)) (u.perform (.assign timer b))
  update : ∀ {t u now later}, timers t u → instants now later →
    timers (t.update now).1 (u.update later).1
  status_eq : ∀ {t u}, timers t u → ∀ redraw,
    status ⟨redraw, t.sound != 0, t.delay != 0⟩ = status ⟨redraw, u.sound != 0, u.delay != 0⟩

namespace Tolerance

/-- Any timers and any clock; of a status only the redraw flag is compared. -/
def clock : Tolerance where
  timers _ _ := True
  instants _ _ := True
  status s := { s with sound := false, delay := false }
  start _ := trivial
  assign _ _ _ := trivial
  update _ _ := trivial
  status_eq _ _ := rfl

/-- Timers that differ in the sound timer at most, on the same clock; of a status all but the sound
flag is compared. -/
def sound : Tolerance where
  timers t u := u.delay = t.delay ∧ u.lastDecay = t.lastDecay
  instants now later := later = now
  status s := { s with sound := false }
  start h := ⟨rfl, h⟩
  assign h timer b := by
    cases timer with
    | delay => exact ⟨rfl, h.2⟩
    | sound => exact h
  update h hinstants := by
    subst hinstants
    simp only [Timers.update, h.1, h.2]
    split
    · exact h
    · exact ⟨rfl, rfl⟩
  status_eq h redraw := by simp only [h.1]

variable (T : Tolerance)

/-- Two machines are the same but for a tolerated difference of their timers. -/
inductive Agree (m : Machine) : Machine → Prop
  | withTimers {t : Timers} (h : T.timers m.timers t) : Agree m { m with timers := t }

/-- Two outcomes of an operation are the same but for tolerated differences. -/
abbrev Alike : Outcome Reply → Outcome Reply → Prop :=
  Outcome.Related T.Agree (Reply.mapStatus T.status)

variable {T}

theorem timers_assignments {t u : Timers} (h : T.timers t u) (m : Machine) (ins : Instruction) :
    T.timers (t.afterAll (m.assignments ins)) (u.afterAll (m.assignments ins)) := by
  cases ins with
  | setDelay x => exact T.assign h .delay (m.register x)
  | setSound x => exact T.assign h .sound (m.register x)
  | _ => exact h

theorem Agree.execute {m n : Machine} (h : T.Agree m n) (address : Word) {ins : Instruction}
    (hread : ∀ x, ins = .readDelay x → n.timers.delay = m.timers.delay) :
    (m.execute address ins).Related T.Agree id (n.execute address ins) := by
  cases h with
  | @withTimers t htimers =>
      rw [Machine.execute_withTimers m t address ins hread]
      refine ⟨.withTimers ?_, rfl, rfl⟩
      rw [Machine.timers_execute]
      exact timers_assignments htimers m ins

theorem Agree.settle {m n : Machine} (h : T.Agree m n) {now later : Instant}
    (hinstants : T.instants now later) (redraw : Bool) :
    T.Agree (m.settle now redraw).1 (n.settle later redraw).1 ∧
      T.status (m.settle now redraw).2 = T.status (n.settle later redraw).2 := by
  cases h with
  | withTimers htimers =>
      have hupdate := T.update htimers hinstants
      exact ⟨.withTimers hupdate, T.status_eq hupdate redraw⟩

/-- A step of both machines shows the difference of their timers only if it reads the delay
timer. -/
theorem Agree.step {m n : Machine} (h : T.Agree m n) {now later : Instant}
    (hinstants : T.instants now later)
    (hread : ∀ x, m.CarriesOut now (.readDelay x) → n.timers.delay = m.timers.delay) :
    (m.step now).Related T.Agree T.status (n.step later) := by
  have hadvance : T.Agree m.advance n.advance := by
    cases h with
    | withTimers htimers => exact .withTimers htimers
  refine Machine.step_related (by cases h; rfl) (by cases h; rfl) h hadvance ?_ ?_
  · intro ins hpc hword
    refine hadvance.execute m.pc ?_
    rintro x rfl
    exact hread x (Machine.carriesOut_of_isOk hpc hword rfl now)
  · exact fun _ _ redraw hnext => hnext.settle hinstants redraw

/-- So does every operation. -/
theorem Agree.perform {m n : Machine} (h : T.Agree m n) {op other : Operation}
    (hmatches : op.Matches T.instants other)
    (hread : ∀ now x, op = .step now → m.CarriesOut now (.readDelay x) →
      n.timers.delay = m.timers.delay) :
    T.Alike (m.perform op) (n.perform other) := by
  cases hmatches with
  | load source =>
      cases h with
      | withTimers htimers =>
      simp only [Machine.perform, Outcome.map, Machine.load]
      cases m.memory.loadProgram source with
      | mk memory answer =>
      cases answer with
      | ok size => exact ⟨.withTimers htimers, rfl, rfl⟩
      | error fault => exact ⟨.withTimers htimers, rfl, rfl⟩
  | reset hinstants =>
      cases h with
      | withTimers htimers =>
      simp only [Machine.perform, Outcome.map, Machine.reset_eq, Machine.start]
      exact ⟨.withTimers (T.start hinstants), rfl, rfl⟩
  | @step now later hinstants =>
      exact (h.step hinstants fun x => hread now x rfl).map fun _ => rfl
  | key key down =>
      cases h with
      | withTimers htimers => exact ⟨.withTimers htimers, rfl, rfl⟩
  | releaseKeys =>
      cases h with
      | withTimers htimers => exact ⟨.withTimers htimers, rfl, rfl⟩

/-- Over a history, if the tolerated timers have the same delay or nothing reads it. -/
theorem Agree.outcomes {m n : Machine} (h : T.Agree m n) {ops others : List Operation}
    (hmatches : List.Forall₂ (Operation.Matches T.instants) ops others)
    (hread : (∀ {t u}, T.timers t u → u.delay = t.delay) ∨ m.NeverReadsDelay ops) :
    List.Forall₂ T.Alike (m.outcomes ops) (n.outcomes others) := by
  induction hmatches generalizing m n with
  | nil => exact .nil
  | @cons op other ops others hmatch _ ih =>
      have hhead : T.Alike (m.perform op) (n.perform other) := by
        refine h.perform hmatch ?_
        rintro now x rfl hcarries
        cases hread with
        | inl hdelay =>
            cases h with
            | withTimers htimers => exact hdelay htimers
        | inr hnever => exact absurd hcarries hnever.head
      exact .cons hhead (ih hhead.machine (hread.imp_right fun hnever => hnever.tail))

end Tolerance

namespace Machine

/-- Until a program reads the delay timer, nothing but the timers and what a status says of them
depends on the clock: two histories of a machine that differ in the instants alone have the same
outcomes otherwise. Machines that differ in the sound timer alone, on one clock, never differ in
anything but the sound timer and what a status says of it. -/
theorem clock_noninterference (m : Machine) :
    (∀ ops others, List.Forall₂ (Operation.Matches Tolerance.clock.instants) ops others →
      m.NeverReadsDelay ops →
      List.Forall₂ Tolerance.clock.Alike (m.outcomes ops) (m.outcomes others)) ∧
    ∀ n, Tolerance.sound.Agree m n → ∀ ops,
      List.Forall₂ Tolerance.sound.Alike (m.outcomes ops) (n.outcomes ops) := by
  constructor
  · intro ops others hmatches hnever
    exact (Tolerance.Agree.withTimers trivial).outcomes hmatches (.inr hnever)
  · intro n hagree ops
    refine hagree.outcomes (List.forall₂_same.mpr fun op _ => ?_) (.inl fun h => h.1)
    cases op with
    | load source => exact .load source
    | reset now => exact .reset rfl
    | step now => exact .step rfl
    | key key down => exact .key key down
    | releaseKeys => exact .releaseKeys

/-- A machine that is about to set both timers and then to wait in a loop. -/
def atTimers : Machine := holding [0x60, 0x02, 0xF0, 0x15, 0xF0, 0x18, 0x12, 0x06]

/-- A machine that is about to read a running delay timer. -/
def atDelay : Machine := { holding [0xF1, 0x07] with timers := ⟨5, 1, 0⟩ }

/-- Steps at given instants, with the keys released in between. -/
def timedRun (first second third fourth : Instant) : List Operation :=
  [.step first, .step second, .releaseKeys, .step third, .step fourth]

theorem clock_noninterference_atTimers :
    (atTimers.afterAll (timedRun 1 2 3 4)).timers ≠
        (atTimers.afterAll (timedRun 1 (-5) 3 20000000)).timers ∧
      List.Forall₂ Tolerance.clock.Alike (atTimers.outcomes (timedRun 1 2 3 4))
        (atTimers.outcomes (timedRun 1 (-5) 3 20000000)) ∧
      atDelay.CarriesOut 20000000 (.readDelay 1) ∧
      List.Forall₂ Tolerance.sound.Alike (atDelay.outcomes [.step 20000000])
        ({ atDelay with timers := ⟨5, 9, 0⟩ }.outcomes [.step 20000000]) := by
  have hmatches : List.Forall₂ (Operation.Matches Tolerance.clock.instants) (timedRun 1 2 3 4)
      (timedRun 1 (-5) 3 20000000) :=
    .cons (.step trivial) (.cons (.step trivial) (.cons .releaseKeys
      (.cons (.step trivial) (.cons (.step trivial) .nil))))
  have hwords : ∀ done ∈ (timedRun 1 2 3 4).inits, ∀ x,
      Instruction.decode? (atTimers.afterAll done).fetched ≠ some (.readDelay x) := by
    decide +kernel
  have hnever : atTimers.NeverReadsDelay (timedRun 1 2 3 4) := by
    intro done now hdone x hcarries
    have hmem := (List.mem_inits ..).mpr ((List.prefix_append done [.step now]).trans hdone)
    exact hwords done hmem x hcarries.decode?_fetched.2
  have hreads : atDelay.CarriesOut 20000000 (.readDelay 1) :=
    carriesOut_of_isOk (by decide +kernel) (by decide +kernel) rfl _
  have hagree : Tolerance.sound.Agree atDelay { atDelay with timers := ⟨5, 9, 0⟩ } :=
    .withTimers ⟨rfl, rfl⟩
  exact ⟨by decide +kernel, (clock_noninterference atTimers).1 _ _ hmatches hnever, hreads,
    (clock_noninterference atDelay).2 _ hagree _⟩

end Machine

end Chip8
