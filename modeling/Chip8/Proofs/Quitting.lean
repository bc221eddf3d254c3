import Chip8.Proofs.Footprint
import Chip8.Proofs.RunResult
import Chip8.Proofs.SingleStep
import Chip8.Session.Threads

/-!
# How both threads come to their ends

The run loop and the input thread look at the quit flag now and then, and whoever sets it has no other
hold on them. What each of them may still do is read off where it stands: `left` counts the accesses
of the loop, and a check that it has passed lets it begin one more cycle. Every access keeps to these
counts, so that they bound whole schedules, for any placement of the accesses of one thread between
those of the other.
-/

namespace Chip8

/-! ## What the run loop leaves to others -/

/-- Nothing happens while frames are drawn, except that drawing may fail. -/
def Surroundings.Quiet (s : Surroundings) : Prop :=
  ∀ number, ∀ d ∈ s.screen number, ∃ reason, d = .failure reason

theorem Machine.keys_step (m : Machine) (now : Instant) : (m.step now).machine.keys = m.keys := by
  have houtcome := m.step_outcome now
  generalize m.step now = outcome at houtcome
  cases houtcome with
  | runaway _ | undecoded _ _ | refused _ _ _ => rfl
  | @finished ins redraw next log hpc hword heffect =>
      have hplace : Place.keys ∉ ins.footprint m.advance.i := by
        cases ins <;> simp [Instruction.footprint, Place.bytes, Place.registersTo]
      have hsame := same_execute m.advance m.pc ins hplace
      rw [heffect] at hsame
      exact hsame

namespace Emulator

theorem disturb_of_failures (e : Emulator) {ds : List Disturbance}
    (h : ∀ d ∈ ds, ∃ reason, d = .failure reason) : (e.disturb ds).1 = e := by
  cases ds with
  | nil => rfl
  | cons d ds =>
      obtain ⟨reason, rfl⟩ := h d List.mem_cons_self
      rfl

theorem shared_present {s : Surroundings} (hquiet : s.Quiet) (e : Emulator) :
    (e.present s).1.shared = e.shared := by
  rw [present, disturb_of_failures _ (hquiet _)]
  rfl

theorem UpToSound.shared {a b : Emulator} (h : UpToSound a b) : b.shared = a.shared := by
  rw [Emulator.shared, Emulator.shared, h.machine, h.controls]

theorem shared_instruct (s : Surroundings) (e : Emulator) :
    (e.instruct s).1.shared = e.shared := by
  rw [(upToSound_instruct s e).shared, shared, Machine.keys_step]
  rfl

end Emulator

namespace RunLoop

variable {s : Surroundings} {l next : RunLoop}

/-- The keys and the quit flag are the same. The loop may take back a request for a single step. -/
def SameOrders (a b : Shared) : Prop := b.keys = a.keys ∧ b.controls.quit = a.controls.quit

theorem SameOrders.of_eq {a b : Shared} (h : b = a) : SameOrders a b := by
  rw [h]
  exact ⟨rfl, rfl⟩

/-- The loop writes neither to the keys nor to the quit flag. -/
theorem Access.sameOrders (h : Access s l next) (hquiet : s.Quiet) :
    SameOrders l.emulator.shared next.emulator.shared := by
  cases h with
  | @opened e e' n h | @openingFailed e e' n fault h | @drawn e e' n h =>
      obtain rfl : (e.present s).1 = e' := congrArg Prod.fst h
      exact .of_eq (Emulator.shared_present hquiet e)
  | @drawingFailed e e' n fault h =>
      obtain rfl : (e.present s).1 = e' := congrArg Prod.fst h
      have hsound := Emulator.upToSound_syncSound s false (e.present s).1
      exact .of_eq (hsound.shared.trans (Emulator.shared_present hquiet e))
  | @ended e n h => exact .of_eq (Emulator.upToSound_stopped s e n).shared
  | @carriedOut e e' n status h =>
      obtain rfl : (e.instruct s).1 = e' := congrArg Prod.fst h
      exact .of_eq (Emulator.shared_instruct s e)
  | @failed e e' n fault h =>
      obtain rfl : (e.instruct s).1 = e' := congrArg Prod.fst h
      have hsound := Emulator.upToSound_syncSound s false (e.instruct s).1
      exact .of_eq (hsound.shared.trans (Emulator.shared_instruct s e))
  | granted _ | waited _ => exact ⟨rfl, rfl⟩
  | goesOn _ _ | running _ | paused _ | noFrame _ | frameDue _ | stays => exact ⟨rfl, rfl⟩

/-! ## What the run loop may still do -/

/-- The most accesses that the loop makes before its end once it is to quit. -/
def left : LoopPoint → Nat
  | .gate => 6
  | .stepRequest => 5
  | .instruction => 4
  | .looking _ => 3
  | .drawing | .opening => 2
  | .checking => 1
  | .finished _ => 0

/-- A cycle begins with the next access. -/
def beginsCycle : LoopPoint → Bool
  | .instruction => true
  | _ => false

theorem Access.left_le (h : Access s l next) (hquit : l.emulator.controls.quit = true) :
    left next.point ≤ left l.point - 1 := by
  cases h with
  | goesOn hgoesOn _ => exact absurd (hgoesOn.symm.trans hquit) Bool.false_ne_true
  | _ => simp [left]

/-- Once the loop is to quit, a cycle only begins behind a check that has been passed, and no other
check is passed. -/
theorem Access.begins_le (h : Access s l next) (hquit : l.emulator.controls.quit = true) :
    (beginsCycle l.point).toNat + (ahead next.point).toNat ≤ (ahead l.point).toNat := by
  cases h with
  | goesOn hgoesOn _ => exact absurd (hgoesOn.symm.trans hquit) Bool.false_ne_true
  | _ => simp [beginsCycle, ahead]

/-- The number of cycles that have begun is the number of those that have been counted, and one more
while a cycle is under way. -/
def Counted (begun : Nat) (l : RunLoop) : Prop :=
  match l.point with
  | .opening | .checking | .gate | .stepRequest | .instruction => begun = l.executed
  | .looking _ | .drawing => begun = l.executed + 1
  | .finished (.ok n) => begun = n
  | .finished (.error _) => True

theorem Counted.access {begun : Nat} (hcounted : Counted begun l) (h : Access s l next) :
    Counted (begun + (beginsCycle l.point).toNat) next := by
  cases h with
  | carriedOut _ => exact congrArg (· + 1) hcounted
  | openingFailed _ | failed _ | drawingFailed _ => trivial
  | _ => exact hcounted

/-- The next access fails: the drawing of a frame, or an instruction. -/
def fails (s : Surroundings) (l : RunLoop) : Bool :=
  match l.point with
  | .opening | .drawing => !(l.emulator.present s).2.isOk
  | .instruction => !(l.emulator.instruct s).2.isOk
  | _ => false

/-- The loop has not come to a fault. -/
def Faultless (l : RunLoop) : Prop := ∀ fault, l.point ≠ .finished (.error fault)

theorem Faultless.access (hfaultless : Faultless l) (h : Access s l next)
    (hgood : fails s l = false) : Faultless next := by
  intro fault hfault
  cases h with
  | openingFailed h | failed h | drawingFailed h =>
      simp only [fails, h] at hgood
      cases hgood
  | stays => exact hfaultless fault hfault
  | _ => cases hfault

/-- A loop that has come to its end without a fault answers with the number of its cycles. -/
theorem Counted.answer {begun : Nat} (hcounted : Counted begun l) (hfaultless : Faultless l)
    {result : Except Fault Nat} (hpoint : l.point = .finished result) : result = .ok begun := by
  cases result with
  | error fault => exact absurd hpoint (hfaultless fault)
  | ok n =>
      unfold Counted at hcounted
      rw [hpoint] at hcounted
      rw [show begun = n from hcounted]

theorem left_le_six (point : LoopPoint) : left point ≤ 6 := by
  cases point <;> simp [left]

theorem exists_of_left_eq_zero {point : LoopPoint} (h : left point = 0) :
    ∃ result, point = .finished result := by
  cases point with
  | finished result => exact ⟨result, rfl⟩
  | _ => cases h

/-- A loop that is to quit leaves at its next check. -/
theorem point_advance_of_quit (s : Surroundings) (hpoint : l.point = .checking)
    (hquit : l.emulator.controls.quit = true) :
    (l.advance s).point = .finished (.ok l.executed) := by
  simp only [advance, hpoint, hquit, Bool.true_or, if_true, finish]

end RunLoop

/-! ## What the input thread may still do -/

theorem InputEvent.quit_steer {c : Controls} (event : InputEvent) (h : c.quit = true) :
    (event.steer c).quit = true := by
  cases event with
  | quit => rfl
  | key _ | pause | step => exact h

namespace InputThread

/-- What an access of the input thread can do to the thread and to what it shares. -/
inductive Access (now : Instant) (reading : Reading) :
    InputThread × Shared → InputThread × Shared → Prop
  | told {pump : Pump} {result : Except String Unit} {s : Shared} (h : s.controls.quit = true) :
      Access now reading (⟨pump, .checking, result⟩, s)
        (⟨pump, .clearing (List.finRange 16), result⟩, s)
  | goesOn {pump : Pump} {result : Except String Unit} {s : Shared} (h : s.controls.quit = false) :
      Access now reading (⟨pump, .checking, result⟩, s) (⟨pump, .reading now, result⟩, s)
  | broke {pump : Pump} {since : Instant} {result : Except String Unit} {s : Shared}
      {reason : String} (h : reading = .error reason) :
      Access now reading (⟨pump, .reading since, result⟩, s)
        (⟨pump, .failing, .error reason⟩, s)
  | nothing {pump : Pump} {since : Instant} {result : Except String Unit} {s : Shared}
      (h : reading = .ok none) :
      Access now reading (⟨pump, .reading since, result⟩, s)
        (⟨pump, .releasing since (List.finRange 16), result⟩, s)
  | handled {pump : Pump} {since : Instant} {result : Except String Unit} {s : Shared}
      {event : InputEvent} (h : reading = .ok (some event)) :
      Access now reading (⟨pump, .reading since, result⟩, s)
        (⟨(pump.take since s event).1, .releasing since (List.finRange 16), result⟩,
          (pump.take since s event).2.1)
  | looked {pump : Pump} {since : Instant} {result : Except String Unit} {s : Shared} {key : Key}
      {rest : List Key} :
      Access now reading (⟨pump, .releasing since (key :: rest), result⟩, s)
        (⟨(Pump.expire since (pump, s) key).1, .releasing since rest, result⟩,
          (Pump.expire since (pump, s) key).2)
  | lookedAll {pump : Pump} {since : Instant} {result : Except String Unit} {s : Shared} :
      Access now reading (⟨pump, .releasing since [], result⟩, s) (⟨pump, .checking, result⟩, s)
  | asked {pump : Pump} {result : Except String Unit} {s : Shared} :
      Access now reading (⟨pump, .failing, result⟩, s)
        (⟨pump, .checking, result⟩, { s with controls := { s.controls with quit := true } })
  | released {pump : Pump} {result : Except String Unit} {s : Shared} {key : Key}
      {rest : List Key} :
      Access now reading (⟨pump, .clearing (key :: rest), result⟩, s)
        (⟨pump, .clearing rest, result⟩, { s with keys := s.keys.set key false })
  | releasedAll {pump : Pump} {result : Except String Unit} {s : Shared} :
      Access now reading (⟨pump, .clearing [], result⟩, s) (⟨pump, .finished, result⟩, s)
  | stays {pump : Pump} {result : Except String Unit} {s : Shared} :
      Access now reading (⟨pump, .finished, result⟩, s) (⟨pump, .finished, result⟩, s)

theorem access_advance (t : InputThread) (now : Instant) (reading : Reading) (s : Shared) :
    Access now reading (t, s) ((t.advance now reading s).1, (t.advance now reading s).2.1) := by
  obtain ⟨pump, point, result⟩ := t
  cases point with
  | checking =>
      cases hquit : s.controls.quit with
      | true => simpa [advance, hquit] using Access.told hquit
      | false => simpa [advance, hquit] using Access.goesOn hquit
  | reading since =>
      cases reading with
      | error reason => exact .broke rfl
      | ok event =>
          cases event with
          | none => exact .nothing rfl
          | some event => exact .handled rfl
  | releasing since rest =>
      cases rest with
      | nil => exact .lookedAll
      | cons key rest => exact .looked
  | failing => exact .asked
  | clearing rest =>
      cases rest with
      | nil => exact .releasedAll
      | cons key rest => exact .released
  | finished => exact .stays

/-- The thread is about to take what the input brings. -/
def takesReading : InputPoint → Bool
  | .reading _ => true
  | _ => false

/-- The keys that the thread has released for good are up. -/
def Cleared (state : InputThread × Shared) : Prop :=
  match state.1.point with
  | .clearing rest => ∀ key, key ∉ rest → state.2.keys.isHeld key = false
  | .finished => ∀ key, state.2.keys.isHeld key = false
  | _ => True

variable {now : Instant} {reading : Reading} {state next : InputThread × Shared}

/-- The thread never takes back that the program is to end. -/
theorem Access.quit (h : Access now reading state next)
    (hquit : state.2.controls.quit = true) : next.2.controls.quit = true := by
  cases h with
  | @handled pump since result s event _ =>
      simp only [Pump.controls_take]
      exact event.quit_steer hquit
  | looked =>
      simp only [Pump.controls_expire]
      exact hquit
  | asked => rfl
  | _ => exact hquit

/-- Once the program is to end, the thread takes at most what it is waiting for already. -/
theorem Access.takes_le (h : Access now reading state next)
    (hquit : state.2.controls.quit = true) :
    (takesReading state.1.point).toNat + (takesReading next.1.point).toNat ≤
      (takesReading state.1.point).toNat := by
  cases h with
  | goesOn hgoesOn => exact absurd (hgoesOn.symm.trans hquit) Bool.false_ne_true
  | _ => simp [takesReading]

/-- The thread stays at its end. -/
theorem Access.finished (h : Access now reading state next)
    (hend : state.1.point = .finished) : next.1.point = .finished := by
  cases h with
  | stays => rfl
  | _ => cases hend

theorem Cleared.access (hcleared : Cleared state) (h : Access now reading state next) :
    Cleared next := by
  cases h with
  | told _ => exact fun key hkey => absurd (List.mem_finRange key) hkey
  | @released _ _ s key rest =>
      intro other hother
      simp only [Keypad.isHeld_set]
      split
      · rfl
      · rename_i hne
        exact hcleared other fun hmem => (List.mem_cons.mp hmem).elim (Ne.symm hne) hother
  | releasedAll => exact fun key => hcleared key List.not_mem_nil
  | stays => exact hcleared
  | _ => trivial

end InputThread

/-! ## Both threads -/

/-- A turn, with what an instruction finds of the keypad if it runs in this turn. It looks at one key
after the other while the input thread presses and releases them, so that this need not be what the
keypad has been at any one time. -/
structure Moment where
  turn : Turn
  seen : Keypad

/-- The frames drawn in the turn change nothing. -/
def Moment.Quiet (m : Moment) : Prop :=
  match m.turn with
  | .loop surroundings => surroundings.Quiet
  | .input _ _ => True

namespace Threads

/-- Both threads when the keypad looks as given. -/
def withKeys (t : Threads) (keys : Keypad) : Threads :=
  { t with loop := t.loop.overwritten fun shared => { shared with keys := keys } }

/-- One turn. The run loop sees the keypad as given for the turn and leaves it as it was. -/
def pass (t : Threads) (m : Moment) : Threads :=
  match m.turn with
  | .loop surroundings => ((t.withKeys m.seen).loopTurn surroundings).withKeys t.shared.keys
  | .input now reading => t.inputTurn now reading

/-- The threads after some turns. -/
def passAll (t : Threads) (moments : List Moment) : Threads := moments.foldl pass t

/-- The number of the turns that a condition on the threads before the turn holds of. -/
def count (p : Threads → Moment → Bool) (t : Threads) : List Moment → Nat
  | [] => 0
  | m :: rest => (p t m).toNat + count p (t.pass m) rest

/-- The turn is one of the run loop. -/
def isLoop (_ : Threads) (m : Moment) : Bool :=
  match m.turn with
  | .loop _ => true
  | .input _ _ => false

/-- A cycle begins with the turn. -/
def begins (t : Threads) (m : Moment) : Bool :=
  t.isLoop m && RunLoop.beginsCycle t.loop.point

/-- The first frame, or a cycle, fails in the turn. -/
def fails (t : Threads) (m : Moment) : Bool :=
  match m.turn with
  | .loop surroundings => (t.withKeys m.seen).loop.fails surroundings
  | .input _ _ => false

/-- The input thread takes in the turn what the input brings. -/
def takes (t : Threads) (m : Moment) : Bool :=
  !t.isLoop m && InputThread.takesReading t.input.point

/-- Both threads are to end. -/
def toQuit (t : Threads) : Bool := t.shared.controls.quit

/-- What a turn can do: an access of the run loop, after which the program may be told to end, or an
access of the input thread. -/
inductive Turned (t : Threads) (m : Moment) (t' : Threads) : Prop
  | loop {s : Surroundings} {next : RunLoop} (hturn : m.turn = .loop s)
      (haccess : RunLoop.Access s (t.withKeys m.seen).loop next)
      (hpoint : t'.loop.point = next.point) (hexecuted : t'.loop.executed = next.executed)
      (hinput : t'.input = t.input) (hkeys : t'.shared.keys = t.shared.keys)
      (hquit : t.toQuit = true → t'.toQuit = true)
  | input {now : Instant} {reading : Reading} (hturn : m.turn = .input now reading)
      (haccess : InputThread.Access now reading (t.input, t.shared) (t'.input, t'.shared))
      (hpoint : t'.loop.point = t.loop.point) (hexecuted : t'.loop.executed = t.loop.executed)

variable {t : Threads} {m : Moment}

theorem turned_pass (t : Threads) {m : Moment} (hquiet : m.Quiet) : Turned t m (t.pass m) := by
  obtain ⟨turn, seen⟩ := m
  cases turn with
  | loop s =>
      have haccess := RunLoop.access_advance s (t.withKeys seen).loop
      cases hpoint : t.loop.point with
      | finished result =>
          -- The loop is at its end, and the program is told to end too.
          have hpass : t.pass ⟨.loop s, seen⟩ = { t with loop := { t.loop with emulator :=
              { t.loop.emulator with controls := { t.loop.emulator.controls with quit := true } } } } := by
            simp only [pass, loopTurn, withKeys, RunLoop.overwritten, hpoint]
            rfl
          rw [hpass]
          have hstays : (t.withKeys seen).loop.advance s = (t.withKeys seen).loop := by
            simp only [RunLoop.advance, withKeys, RunLoop.overwritten, hpoint]
          rw [hstays] at haccess
          exact .loop rfl haccess rfl rfl rfl rfl fun _ => rfl
      | _ =>
          have hpass : t.pass ⟨.loop s, seen⟩ =
              ({ t with loop := (t.withKeys seen).loop.advance s }).withKeys t.shared.keys := by
            simp only [pass, loopTurn, withKeys, RunLoop.overwritten, hpoint]
          rw [hpass]
          refine .loop rfl haccess rfl rfl rfl rfl fun hquit => ?_
          exact (haccess.sameOrders hquiet).2.trans hquit
  | input now reading =>
      have hlog := Emulator.upToSound_noteLog
        (t.loop.emulator.withShared (t.input.advance now reading t.shared).2.1)
        (t.input.advance now reading t.shared).2.2
      have hshared : (t.pass ⟨.input now reading, seen⟩).shared =
          (t.input.advance now reading t.shared).2.1 := hlog.shared
      refine .input rfl ?_ rfl rfl
      rw [hshared]
      exact InputThread.access_advance t.input now reading t.shared

/-- A turn in which the keypad looks as it is is a turn of the schedule. -/
theorem pass_own (t : Threads) (turn : Turn)
    (hquiet : Moment.Quiet ⟨turn, t.shared.keys⟩) :
    t.pass ⟨turn, t.shared.keys⟩ = t.take turn := by
  cases turn with
  | input now reading => rfl
  | loop s =>
      have hkeys : (t.loopTurn s).shared.keys = t.shared.keys := by
        have haccess := RunLoop.access_advance s t.loop
        unfold loopTurn
        split
        · rfl
        · exact (haccess.sameOrders hquiet).1
      change (t.loopTurn s).withKeys t.shared.keys = t.loopTurn s
      rw [← hkeys]
      rfl

/-- At its check the run loop leaves with the number of its cycles. -/
theorem pass_of_checking {begun : Nat} (hcounted : RunLoop.Counted begun t.loop)
    (hquit : t.toQuit = true) (hpoint : t.loop.point = .checking) (s : Surroundings)
    (seen : Keypad) : (t.pass ⟨.loop s, seen⟩).loop.point = .finished (.ok begun) := by
  have hpass : t.pass ⟨.loop s, seen⟩ =
      ({ t with loop := (t.withKeys seen).loop.advance s }).withKeys t.shared.keys := by
    simp only [pass, loopTurn, withKeys, RunLoop.overwritten, hpoint]
  have hexecuted : begun = t.loop.executed := by
    unfold RunLoop.Counted at hcounted
    rw [hpoint] at hcounted
    exact hcounted
  rw [hpass, hexecuted]
  exact RunLoop.point_advance_of_quit (l := (t.withKeys seen).loop) s hpoint hquit

/-! ## One turn -/

theorem Turned.toQuit {t' : Threads} (h : Turned t m t') (hquit : t.toQuit = true) :
    t'.toQuit = true := by
  cases h with
  | loop _ _ _ _ _ _ hkept => exact hkept hquit
  | input _ haccess _ _ => exact haccess.quit hquit

theorem Turned.begins_le {t' : Threads} (h : Turned t m t') (hquit : t.toQuit = true) :
    (t.begins m).toNat + (RunLoop.ahead t'.loop.point).toNat ≤
      (RunLoop.ahead t.loop.point).toNat := by
  cases h with
  | loop hturn haccess hpoint _ _ _ _ =>
      simp only [begins, isLoop, hturn, Bool.true_and, hpoint]
      exact haccess.begins_le hquit
  | input hturn _ hpoint _ =>
      simp only [begins, isLoop, hturn, Bool.false_and, hpoint]
      exact Nat.le_of_eq (Nat.zero_add _)

theorem Turned.takes_le {t' : Threads} (h : Turned t m t') (hquit : t.toQuit = true) :
    (t.takes m).toNat + (InputThread.takesReading t'.input.point).toNat ≤
      (InputThread.takesReading t.input.point).toNat := by
  cases h with
  | loop hturn _ _ _ hinput _ _ =>
      simp only [takes, isLoop, hturn, Bool.not_true, Bool.false_and, hinput]
      exact Nat.le_of_eq (Nat.zero_add _)
  | input hturn haccess _ _ =>
      simp only [takes, isLoop, hturn, Bool.not_false, Bool.true_and]
      exact haccess.takes_le hquit

theorem Turned.left_le {t' : Threads} (h : Turned t m t') (hquit : t.toQuit = true) :
    RunLoop.left t'.loop.point ≤ RunLoop.left t.loop.point - (t.isLoop m).toNat := by
  cases h with
  | loop hturn haccess hpoint _ _ _ _ =>
      simp only [isLoop, hturn, hpoint]
      exact haccess.left_le hquit
  | input hturn _ hpoint _ =>
      simp only [isLoop, hturn, hpoint]
      exact Nat.le_refl _

theorem Turned.counted {t' : Threads} (h : Turned t m t') {begun : Nat}
    (hcounted : RunLoop.Counted begun t.loop) :
    RunLoop.Counted (begun + (t.begins m).toNat) t'.loop := by
  cases h with
  | loop hturn haccess hpoint hexecuted _ _ _ =>
      have hnext := RunLoop.Counted.access (l := (t.withKeys m.seen).loop) hcounted haccess
      simp only [begins, isLoop, hturn, Bool.true_and]
      unfold RunLoop.Counted at hnext ⊢
      rw [hpoint, hexecuted]
      exact hnext
  | input hturn _ hpoint hexecuted =>
      simp only [begins, isLoop, hturn, Bool.false_and]
      unfold RunLoop.Counted at hcounted ⊢
      rw [hpoint, hexecuted]
      exact hcounted

theorem Turned.faultless {t' : Threads} (h : Turned t m t') (hfaultless : t.loop.Faultless)
    (hgood : t.fails m = false) : t'.loop.Faultless := by
  cases h with
  | loop hturn haccess hpoint _ _ _ _ =>
      simp only [fails, hturn] at hgood
      intro fault hfault
      rw [hpoint] at hfault
      exact RunLoop.Faultless.access (l := (t.withKeys m.seen).loop) hfaultless haccess hgood
        fault hfault
  | input _ _ hpoint _ =>
      intro fault hfault
      rw [hpoint] at hfault
      exact hfaultless fault hfault

theorem Turned.cleared {t' : Threads} (h : Turned t m t')
    (hcleared : InputThread.Cleared (t.input, t.shared)) :
    InputThread.Cleared (t'.input, t'.shared) := by
  cases h with
  | loop _ _ _ _ hinput hkeys _ =>
      unfold InputThread.Cleared at hcleared ⊢
      simp only [hinput, hkeys]
      exact hcleared
  | input _ haccess _ _ => exact hcleared.access haccess

theorem Turned.finished {t' : Threads} (h : Turned t m t') (hend : t.input.point = .finished) :
    t'.input.point = .finished := by
  cases h with
  | loop _ _ _ _ hinput _ _ =>
      rw [hinput]
      exact hend
  | input _ haccess _ _ => exact haccess.finished hend

/-! ## A schedule -/

theorem passAll_append (t : Threads) (moments more : List Moment) :
    t.passAll (moments ++ more) = (t.passAll moments).passAll more := by
  simp only [passAll, List.foldl_append]

/-- What every turn keeps, every schedule keeps. -/
theorem passAll_invariant {P : Threads → Prop}
    (hpass : ∀ t m, m.Quiet → P t → P (t.pass m)) {t : Threads} (hstart : P t)
    {moments : List Moment} (hquiet : ∀ m ∈ moments, m.Quiet) : P (t.passAll moments) := by
  induction moments generalizing t with
  | nil => exact hstart
  | cons m rest ih =>
      rw [List.forall_mem_cons] at hquiet
      exact ih (hpass t m hquiet.1 hstart) hquiet.2

/-- Turns that are paid for out of a budget, once both threads are to end, are no more than the
budget allows. -/
theorem count_le_of_budget {p : Threads → Moment → Bool} (budget : Threads → Nat)
    (hpass : ∀ t m, m.Quiet → t.toQuit = true → (p t m).toNat + budget (t.pass m) ≤ budget t)
    {moments : List Moment} (hquiet : ∀ m ∈ moments, m.Quiet) {t : Threads}
    (hquit : t.toQuit = true) : t.count p moments ≤ budget t := by
  induction moments generalizing t with
  | nil => exact Nat.zero_le _
  | cons m rest ih =>
      rw [List.forall_mem_cons] at hquiet
      have hfirst := hpass t m hquiet.1 hquit
      have hrest := ih hquiet.2 ((t.turned_pass hquiet.1).toQuit hquit)
      rw [count]
      omega

/-- Once both threads are to end, the turns of the loop take it to its end. -/
theorem left_passAll_le {moments : List Moment} (hquiet : ∀ m ∈ moments, m.Quiet) {t : Threads}
    (hquit : t.toQuit = true) :
    RunLoop.left (t.passAll moments).loop.point ≤
      RunLoop.left t.loop.point - t.count isLoop moments := by
  induction moments generalizing t with
  | nil => exact Nat.le_refl _
  | cons m rest ih =>
      rw [List.forall_mem_cons] at hquiet
      have hturned := t.turned_pass hquiet.1
      have hfirst := hturned.left_le hquit
      have hrest := ih hquiet.2 (hturned.toQuit hquit)
      rw [count]
      change RunLoop.left ((t.pass m).passAll rest).loop.point ≤ _
      omega

theorem exists_finished_of_six {moments : List Moment} (hquiet : ∀ m ∈ moments, m.Quiet)
    {t : Threads} (hquit : t.toQuit = true) (henough : 6 ≤ t.count isLoop moments) :
    ∃ result, (t.passAll moments).loop.point = .finished result := by
  have hleft := left_passAll_le hquiet hquit
  have hsix := RunLoop.left_le_six t.loop.point
  apply RunLoop.exists_of_left_eq_zero
  omega

theorem counted_passAll {begun : Nat} {t : Threads} (hcounted : RunLoop.Counted begun t.loop)
    {moments : List Moment} (hquiet : ∀ m ∈ moments, m.Quiet) :
    RunLoop.Counted (begun + t.count begins moments) (t.passAll moments).loop := by
  induction moments generalizing t begun with
  | nil => exact hcounted
  | cons m rest ih =>
      rw [List.forall_mem_cons] at hquiet
      rw [count, ← Nat.add_assoc]
      exact ih ((t.turned_pass hquiet.1).counted hcounted) hquiet.2

theorem faultless_passAll {t : Threads} (hfaultless : t.loop.Faultless) {moments : List Moment}
    (hquiet : ∀ m ∈ moments, m.Quiet) (hgood : t.count fails moments = 0) :
    (t.passAll moments).loop.Faultless := by
  induction moments generalizing t with
  | nil => exact hfaultless
  | cons m rest ih =>
      rw [List.forall_mem_cons] at hquiet
      rw [count, Nat.add_eq_zero_iff, Bool.toNat_eq_zero] at hgood
      exact ih ((t.turned_pass hquiet.1).faultless hfaultless hgood.1) hquiet.2 hgood.2

theorem counted_start (e : Emulator) {moments : List Moment} (hquiet : ∀ m ∈ moments, m.Quiet) :
    RunLoop.Counted ((start e).count begins moments) ((start e).passAll moments).loop := by
  have hstart : RunLoop.Counted 0 (start e).loop := rfl
  have hall := counted_passAll hstart hquiet
  rwa [Nat.zero_add] at hall

/-- The input thread leaves all keys up, and no one presses them after it. -/
theorem released_of_finished (e : Emulator) {moments : List Moment}
    (hquiet : ∀ m ∈ moments, m.Quiet) (hend : ((start e).passAll moments).input.point = .finished) :
    ∀ key, ((start e).passAll moments).shared.keys.isHeld key = false := by
  have hstart : InputThread.Cleared ((start e).input, (start e).shared) := trivial
  have hcleared : InputThread.Cleared
      (((start e).passAll moments).input, ((start e).passAll moments).shared) :=
    passAll_invariant (P := fun t => InputThread.Cleared (t.input, t.shared))
      (fun t m hm => (t.turned_pass hm).cleared) hstart hquiet
  unfold InputThread.Cleared at hcleared
  simp only [hend] at hcleared
  exact hcleared

/-- From the start of both threads, for every schedule of their accesses. Once the program is to end
it stays so. From then on the loop begins at most one more cycle, and only behind a check that it has
passed before; it leaves at its next check with the number of the instructions that have been run, and
after at most six accesses it is at its end, with that number unless the first frame or the cycle under
way has failed. The input thread takes at most one more reading, the one that it is waiting for. When
it is at its end no key is held, and none is from then on. What an instruction sees of the keypad may
be anything in each turn; where it is the keypad itself, the turn is one of the model. -/
theorem quit_ends_both (e : Emulator) (schedule more : List Moment)
    (hquiet : ∀ m ∈ schedule ++ more, m.Quiet) :
    let t := (start e).passAll schedule
    let later := t.passAll more
    let begun := (start e).count begins (schedule ++ more)
    (t.toQuit = true →
      later.toQuit = true ∧
      t.count begins more ≤ (RunLoop.ahead t.loop.point).toNat ∧
      (∀ s seen, later.loop.point = .checking →
        (later.pass ⟨.loop s, seen⟩).loop.point = .finished (.ok begun)) ∧
      (6 ≤ t.count isLoop more → ∃ result, later.loop.point = .finished result) ∧
      (t.loop.Faultless → t.count fails more = 0 →
        ∀ result, later.loop.point = .finished result → result = .ok begun) ∧
      t.count takes more ≤ (InputThread.takesReading t.input.point).toNat) ∧
    (t.input.point = .finished →
      later.input.point = .finished ∧ ∀ key, later.shared.keys.isHeld key = false) ∧
    ∀ turn, Moment.Quiet ⟨turn, later.shared.keys⟩ →
      later.pass ⟨turn, later.shared.keys⟩ = later.take turn := by
  intro t later begun
  obtain ⟨-, hmore⟩ := List.forall_mem_append.mp hquiet
  have hlater : (start e).passAll (schedule ++ more) = later := passAll_append ..
  have hcounted : RunLoop.Counted begun later.loop := hlater ▸ counted_start e hquiet
  refine ⟨?_, ?_, fun turn hturn => later.pass_own turn hturn⟩
  · intro hquit
    have hquitLater : later.toQuit = true :=
      passAll_invariant (fun t m hm => (t.turned_pass hm).toQuit) hquit hmore
    refine ⟨hquitLater, ?_, ?_, ?_, ?_, ?_⟩
    · exact count_le_of_budget (fun t => (RunLoop.ahead t.loop.point).toNat)
        (fun t m hm => (t.turned_pass hm).begins_le) hmore hquit
    · intro s seen hpoint
      exact pass_of_checking hcounted hquitLater hpoint s seen
    · intro henough
      exact exists_finished_of_six hmore hquit henough
    · intro hfaultless hgood result hresult
      exact hcounted.answer (faultless_passAll hfaultless hmore hgood) hresult
    · exact count_le_of_budget (fun t => (InputThread.takesReading t.input.point).toNat)
        (fun t m hm => (t.turned_pass hm).takes_le) hmore hquit
  · intro hend
    have hendLater : later.input.point = .finished :=
      passAll_invariant (fun t m hm => (t.turned_pass hm).finished) hend hmore
    refine ⟨hendLater, ?_⟩
    rw [← hlater] at hendLater ⊢
    exact released_of_finished e hquiet hendLater

/-- An emulator whose machine goes in a circle and that no limit stops. -/
def circling : Emulator := .start (Machine.holding [0x12, 0x00]) (Config.ofRom "")

/-- A turn of the run loop with nothing to report from outside. -/
def calmTurn : Moment := ⟨.loop (.calm 0), Keypad.released⟩

/-- A turn of the input thread. -/
def inputMoment (reading : Reading) : Moment := ⟨.input 0 reading, Keypad.released⟩

/-- The user quits when the run loop has just passed its check. -/
def quitAtGate : List Moment :=
  [calmTurn, calmTurn, inputMoment (.ok none), inputMoment (.ok (some .quit))]

/-- Both threads go on, while the user presses a key. -/
def windUp : List Moment :=
  List.replicate 6 calmTurn ++ List.replicate 35 (inputMoment (.ok (some (.key 5))))

theorem quit_ends_both_atGate :
    ((∀ m ∈ quitAtGate ++ windUp, m.Quiet) ∧
        ((start circling).passAll quitAtGate).toQuit = true ∧
        RunLoop.ahead ((start circling).passAll quitAtGate).loop.point = true) ∧
      (((start circling).passAll quitAtGate).passAll windUp).loop.point = .finished (.ok 1) ∧
      ∀ key, (((start circling).passAll (quitAtGate ++ windUp)).passAll
        [inputMoment (.ok (some (.key 5)))]).shared.keys.isHeld key = false := by
  have hcalm : calmTurn.Quiet := fun _ _ hd => absurd hd List.not_mem_nil
  have hinput : ∀ reading, (inputMoment reading).Quiet := fun _ => trivial
  have hquiet : ∀ m ∈ quitAtGate ++ windUp, m.Quiet := by
    intro m hm
    simp only [quitAtGate, windUp, List.mem_append, List.mem_cons, List.not_mem_nil, or_false,
      List.mem_replicate] at hm
    rcases hm with (rfl | rfl | rfl | rfl) | ⟨-, rfl⟩ | ⟨-, rfl⟩
    · exact hcalm
    · exact hcalm
    · exact hinput _
    · exact hinput _
    · exact hcalm
    · exact hinput _
  have hquit : ((start circling).passAll quitAtGate).toQuit = true ∧
      RunLoop.ahead ((start circling).passAll quitAtGate).loop.point = true := by
    decide +kernel
  have hcounts : 6 ≤ ((start circling).passAll quitAtGate).count isLoop windUp ∧
      ((start circling).passAll quitAtGate).count fails windUp = 0 ∧
      (start circling).count begins (quitAtGate ++ windUp) = 1 := by
    decide +kernel
  have hfinished : ((start circling).passAll (quitAtGate ++ windUp)).input.point = .finished := by
    decide +kernel
  have hfaultless : ((start circling).passAll quitAtGate).loop.Faultless := by
    intro fault hfault
    have hahead := hquit.2
    rw [hfault] at hahead
    cases hahead
  refine ⟨⟨hquiet, hquit⟩, ?_, ?_⟩
  · obtain ⟨-, -, -, hend, hanswer, -⟩ :=
      (quit_ends_both circling quitAtGate windUp hquiet).1 hquit.1
    obtain ⟨result, hresult⟩ := hend hcounts.1
    rw [hresult, hanswer hfaultless hcounts.2.1 result hresult, hcounts.2.2]
  · have hmore : ∀ m ∈ quitAtGate ++ windUp ++ [inputMoment (.ok (some (.key 5)))], m.Quiet :=
      List.forall_mem_append.mpr ⟨hquiet, fun m hm => List.mem_singleton.mp hm ▸ hinput _⟩
    exact ((quit_ends_both circling (quitAtGate ++ windUp) _ hmore).2.1 hfinished).2

end Threads

end Chip8
