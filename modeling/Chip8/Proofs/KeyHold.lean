import Mathlib.Data.List.Induction
import Mathlib.Data.List.Pairwise
import Chip8.Input.Pump

/-!
# How long a key is held

The pump keeps two records of the keys: the keypad says which are held, and the pump
itself when each of them was last pressed. `Agrees` says that they tell the same, and
every turn keeps it. What the second record holds of a key is read off the history:
the instant of the last press, unless a turn has come a hold time or more after it.
The instants may come in any order, and turns whose input fails leave no trace.
-/

namespace Chip8

/-- A turn of the pump at an instant, in nanoseconds, with what the input brings. -/
structure PumpCall where
  now : Int
  reading : Reading

namespace PumpCall

/-- The input brings a press of a key. Only the low four bits of the number count. -/
def Presses (c : PumpCall) (key : Key) : Prop :=
  ∃ number : Byte, c.reading = .ok (some (.key number)) ∧ number.toNat % 16 = key.val

/-- The input does not fail. -/
def Succeeds (c : PumpCall) : Prop := ∃ event, c.reading = .ok event

theorem Presses.succeeds {c : PumpCall} {key : Key} (h : c.Presses key) : c.Succeeds := by
  obtain ⟨number, hreading, -⟩ := h
  exact ⟨_, hreading⟩

end PumpCall

namespace Pump

/-- The pump and what it shares after a list of turns, in order, each taken whether or not the one
before went well. -/
def afterAll (state : Pump × Shared) (calls : List PumpCall) : Pump × Shared :=
  calls.foldl (fun state c =>
    let turned := state.1.turn c.now c.reading state.2
    (turned.pump, turned.shared)) state

theorem afterAll_snoc (state : Pump × Shared) (calls : List PumpCall) (c : PumpCall) :
    afterAll state (calls ++ [c]) =
      let turned := (afterAll state calls).1.turn c.now c.reading (afterAll state calls).2
      (turned.pump, turned.shared) := by
  simp only [afterAll, List.foldl_append, List.foldl_cons, List.foldl_nil]

/-! ## One turn -/

/-- The pump and what it shares once an event has been handled, if there is one. -/
def handle (p : Pump) (now : Instant) (s : Shared) : Option InputEvent → Pump × Shared
  | some event => ((p.take now s event).1, (p.take now s event).2.1)
  | none => (p, s)

/-- A turn whose input fails leaves everything as it is. -/
theorem turn_error (p : Pump) (now : Instant) (s : Shared) (reason : String) :
    p.turn now (.error reason) s = ⟨p, s, .error reason, []⟩ := rfl

/-- A turn goes well unless its input fails. -/
theorem turn_result (p : Pump) (now : Instant) (s : Shared) (event : Option InputEvent) :
    (p.turn now (.ok event) s).result = .ok () := by
  simp only [turn]

/-- A turn whose input does not fail handles the event and then releases the keys that are due. -/
theorem turn_ok (p : Pump) (now : Instant) (s : Shared) (event : Option InputEvent) :
    ((p.turn now (.ok event) s).pump, (p.turn now (.ok event) s).shared) =
      (p.handle now s event).1.expireAll now (p.handle now s event).2 := by
  cases event with
  | none => simp only [turn, handle]
  | some event => simp only [turn, handle]

theorem entry_handle (p : Pump) (now : Instant) (s : Shared) (event : Option InputEvent)
    (key : Key) :
    PumpCall.Presses ⟨now, .ok event⟩ key ∧
        (p.handle now s event).1.pressedAt.entry key = some now ∨
      ¬ PumpCall.Presses ⟨now, .ok event⟩ key ∧
        (p.handle now s event).1.pressedAt.entry key = p.pressedAt.entry key := by
  by_cases hpress : PumpCall.Presses ⟨now, .ok event⟩ key
  · left
    refine ⟨hpress, ?_⟩
    obtain ⟨number, hreading, hnumber⟩ := hpress
    obtain rfl : event = some (.key number) := Except.ok.inj hreading
    have hkey : number.lowNibble = key := Fin.ext hnumber
    simp only [handle, take, Table.entry_put, if_pos hkey]
  · right
    refine ⟨hpress, ?_⟩
    cases event with
    | none => rfl
    | some event =>
        cases event with
        | key number =>
            have hkey : number.lowNibble ≠ key := fun h =>
              hpress ⟨number, rfl, congrArg Fin.val h⟩
            simp only [handle, take, Table.entry_put, if_neg hkey]
        | pause | step | quit => rfl

/-- A press is kept as long as its hold time has not gone by. -/
def isRecent (now pressed : Int) : Bool := decide (now - pressed < 150000000)

theorem isDue_eq (p : Pump) (now : Instant) (key : Key) :
    p.isDue now key = (p.pressedAt.entry key).any fun pressed => !isRecent now pressed := by
  unfold isDue
  cases p.pressedAt.entry key with
  | none => rfl
  | some pressed =>
      simp only [Option.any_some, isRecent, ← decide_not, decide_eq_decide]
      unfold holdTime Instant.elapsed
      omega

theorem entry_expire (state : Pump × Shared) (now : Instant) (key other : Key) :
    (expire now state key).1.pressedAt.entry other =
      if key = other then (state.1.pressedAt.entry other).filter (isRecent now)
      else state.1.pressedAt.entry other := by
  unfold expire
  rw [isDue_eq]
  by_cases hkey : key = other
  · subst hkey
    rw [if_pos rfl]
    cases hentry : state.1.pressedAt.entry key with
    | none => simp [hentry]
    | some pressed =>
        cases hrecent : isRecent now pressed with
        | false => simp [hrecent, Table.entry_put, Option.filter_some]
        | true => simp [hrecent, hentry, Option.filter_some]
  · rw [if_neg hkey]
    split
    · exact (Table.entry_put ..).trans (if_neg hkey)
    · rfl

/-- A turn takes back the presses whose hold time has gone by, and no others. -/
theorem entry_expireAll (p : Pump) (now : Instant) (s : Shared) (key : Key) :
    (p.expireAll now s).1.pressedAt.entry key =
      (p.pressedAt.entry key).filter (isRecent now) := by
  have hkeys : ∀ (keys : List Key) (state : Pump × Shared),
      (keys.foldl (expire now) state).1.pressedAt.entry key =
        if key ∈ keys then (state.1.pressedAt.entry key).filter (isRecent now)
        else state.1.pressedAt.entry key := by
    intro keys
    induction keys with
    | nil => exact fun _ => rfl
    | cons first rest ih =>
        intro state
        rw [List.foldl_cons, ih, entry_expire]
        by_cases hfirst : first = key
        · -- A key that is looked at again is not pressed in between.
          subst hfirst
          simp
        · simp [hfirst, Ne.symm hfirst]
  rw [expireAll, hkeys, if_pos (List.mem_finRange key)]

/-- What a turn makes of the press that is remembered of a key: a new press takes its place, and
otherwise it is kept as long as it is recent. -/
theorem entry_turn_ok_iff (p : Pump) (now : Int) (s : Shared) (event : Option InputEvent)
    (key : Key) (pressed : Int) :
    (p.turn now (.ok event) s).pump.pressedAt.entry key = some pressed ↔
      PumpCall.Presses ⟨now, .ok event⟩ key ∧ now = pressed ∨
      ¬ PumpCall.Presses ⟨now, .ok event⟩ key ∧ p.pressedAt.entry key = some pressed ∧
        now - pressed < 150000000 := by
  have hturn := congrArg (fun state : Pump × Shared => state.1.pressedAt.entry key)
    (p.turn_ok now s event)
  simp only [entry_expireAll] at hturn
  rw [hturn, Option.filter_eq_some_iff, isRecent, decide_eq_true_iff]
  rcases entry_handle p now s event key with ⟨hpress, hentry⟩ | ⟨hpress, hentry⟩
  · simp only [hpress, hentry, Option.some.injEq, not_true_eq_false, true_and, false_and, or_false]
    constructor
    · exact fun h => h.1
    · rintro rfl
      exact ⟨rfl, by omega⟩
  · simp only [hpress, hentry, not_false_eq_true, true_and, false_and, false_or]

/-! ## The two records of a key -/

/-- The keys that are held are those that wait for their release. -/
def Agrees (state : Pump × Shared) : Prop :=
  ∀ key, state.2.keys.isHeld key = (state.1.pressedAt.entry key).isSome

theorem agrees_idle (controls : Controls) : Agrees (idle, ⟨Keypad.released, controls⟩) := by
  intro key
  simp [idle]

theorem Agrees.handle {p : Pump} {s : Shared} (h : Agrees (p, s)) (now : Instant)
    (event : Option InputEvent) : Agrees (p.handle now s event) := by
  cases event with
  | none => exact h
  | some event =>
      cases event with
      | key number =>
          intro key
          simp only [Pump.handle, Pump.take, Keypad.isHeld_set, Table.entry_put]
          by_cases hkey : number.lowNibble = key
          · rw [if_pos hkey, if_pos hkey]
            rfl
          · rw [if_neg hkey, if_neg hkey]
            exact h key
      | pause | step | quit => exact h

theorem Agrees.expire {state : Pump × Shared} (h : Agrees state) (now : Instant) (key : Key) :
    Agrees (expire now state key) := by
  unfold Pump.expire
  split
  · intro other
    simp only [Keypad.isHeld_set, Table.entry_put]
    by_cases hkey : key = other
    · rw [if_pos hkey, if_pos hkey]
      rfl
    · rw [if_neg hkey, if_neg hkey]
      exact h other
  · exact h

theorem Agrees.expireAll {p : Pump} {s : Shared} (h : Agrees (p, s)) (now : Instant) :
    Agrees (p.expireAll now s) := by
  have hkeys : ∀ (keys : List Key) (state : Pump × Shared), Agrees state →
      Agrees (keys.foldl (Pump.expire now) state) := by
    intro keys
    induction keys with
    | nil => exact fun _ hstate => hstate
    | cons key keys ih => exact fun state hstate => ih _ (hstate.expire now key)
  exact hkeys _ _ h

/-- Every turn keeps the two records of the keys in agreement. -/
theorem Agrees.turn {p : Pump} {s : Shared} (h : Agrees (p, s)) (now : Instant)
    (reading : Reading) :
    Agrees ((p.turn now reading s).pump, (p.turn now reading s).shared) := by
  cases reading with
  | error reason => exact h
  | ok event =>
      rw [turn_ok]
      exact (h.handle now event).expireAll now

/-! ## Histories -/

/-- A turn of a history has pressed a key at an instant, no later one has pressed it again, and no
later one whose input did not fail has come a hold time or more after it. -/
def HeldSince (calls : List PumpCall) (key : Key) (pressed : Int) : Prop :=
  ∃ before c after, calls = before ++ c :: after ∧ c.Presses key ∧ c.now = pressed ∧
    ∀ later ∈ after, ¬ later.Presses key ∧ (later.Succeeds → later.now - pressed < 150000000)

theorem not_heldSince_nil (key : Key) (pressed : Int) : ¬ HeldSince [] key pressed := by
  rintro ⟨before, c, after, hsplit, -⟩
  simp at hsplit

theorem heldSince_snoc_iff {calls : List PumpCall} {c : PumpCall} {key : Key} {pressed : Int} :
    HeldSince (calls ++ [c]) key pressed ↔
      c.Presses key ∧ c.now = pressed ∨
      ¬ c.Presses key ∧ HeldSince calls key pressed ∧
        (c.Succeeds → c.now - pressed < 150000000) := by
  constructor
  · rintro ⟨before, d, after, hsplit, hpress, hnow, hafter⟩
    cases after using List.reverseRecOn with
    | nil =>
        obtain ⟨-, hlast⟩ := List.append_inj' hsplit rfl
        obtain rfl := List.singleton_inj.mp hlast
        exact .inl ⟨hpress, hnow⟩
    | append_singleton after last =>
        rw [← List.cons_append, ← List.append_assoc] at hsplit
        obtain ⟨rfl, hlast⟩ := List.append_inj' hsplit rfl
        obtain rfl := List.singleton_inj.mp hlast
        obtain ⟨hother, hrecent⟩ := hafter c (by simp)
        refine .inr ⟨hother, ⟨before, d, after, rfl, hpress, hnow, ?_⟩, hrecent⟩
        exact fun later hlater => hafter later (List.mem_append_left _ hlater)
  · rintro (⟨hpress, hnow⟩ | ⟨hother, ⟨before, d, after, rfl, hpress, hnow, hafter⟩, hrecent⟩)
    · exact ⟨calls, c, [], rfl, hpress, hnow, by simp⟩
    · refine ⟨before, d, after ++ [c], by simp, hpress, hnow, ?_⟩
      intro later hlater
      rcases List.mem_append.mp hlater with hlater | hlater
      · exact hafter later hlater
      · obtain rfl := List.mem_singleton.mp hlater
        exact ⟨hother, hrecent⟩

theorem agrees_afterAll (controls : Controls) (calls : List PumpCall) :
    Agrees (afterAll (idle, ⟨Keypad.released, controls⟩) calls) := by
  induction calls using List.reverseRecOn with
  | nil => exact agrees_idle controls
  | append_singleton calls c ih =>
      rw [afterAll_snoc]
      exact ih.turn c.now c.reading

/-- What the pump remembers of a key is the press that holds it. -/
theorem entry_afterAll_iff (s : Shared) (calls : List PumpCall) (key : Key) (pressed : Int) :
    (afterAll (idle, s) calls).1.pressedAt.entry key = some pressed ↔
      HeldSince calls key pressed := by
  induction calls using List.reverseRecOn with
  | nil =>
      have hidle : idle.pressedAt.entry key = none := Table.entry_const none key
      refine iff_of_false ?_ (not_heldSince_nil key pressed)
      rw [afterAll, List.foldl_nil, hidle]
      exact Option.some_ne_none _ ∘ Eq.symm
  | append_singleton calls c ih =>
      obtain ⟨now, reading⟩ := c
      rw [afterAll_snoc, heldSince_snoc_iff, ← ih]
      cases reading with
      | error reason =>
          have hquiet : ¬ PumpCall.Succeeds ⟨now, .error reason⟩ := by
            rintro ⟨event, hevent⟩
            cases hevent
          have hother : ¬ PumpCall.Presses ⟨now, .error reason⟩ key := fun h => hquiet h.succeeds
          simp only [hother, hquiet, false_and, not_false_eq_true, true_and, false_imp_iff,
            and_true, false_or]
          rfl
      | ok event =>
          have hgood : PumpCall.Succeeds ⟨now, .ok event⟩ := ⟨event, rfl⟩
          simp only [hgood, true_imp_iff]
          exact entry_turn_ok_iff ..

/-- On a clock that never goes back, with an input that never fails, no turn has come a hold time
after a press if the last one has not. -/
theorem forall_recent_iff {c : PumpCall} {after : List PumpCall}
    (hsteady : (c :: after).Pairwise fun a b => a.now ≤ b.now)
    (hgood : ∀ later ∈ after, later.Succeeds) :
    (∀ later ∈ after, later.Succeeds → later.now - c.now < 150000000) ↔
      ((c :: after).getLast (List.cons_ne_nil _ _)).now - c.now < 150000000 := by
  constructor
  · intro hrecent
    rcases List.mem_cons.mp (List.getLast_mem (List.cons_ne_nil c after)) with hlast | hlast
    · rw [hlast]
      omega
    · exact hrecent _ hlast (hgood _ hlast)
  · intro hlast later hlater _
    have hle := hsteady.rel_getLast_of_rel_getLast_getLast (List.mem_cons_of_mem c hlater)
      (Int.le_refl _)
    omega

/-- After any turns of a new pump, at any instants, a key is held if and only if some turn has
pressed it, no later one has pressed it again, and no later one that went well has come a hold time
or more after this press. On a clock that never goes back, with an input that never fails, this is
so as long as the last turn is less than a hold time after the last press. A turn goes well unless
its input fails; then it changes neither the keypad nor the controls nor what is remembered. -/
theorem isHeld_iff_recent_press (controls : Controls) (calls : List PumpCall) :
    let ended := afterAll (idle, ⟨Keypad.released, controls⟩) calls
    (∀ key, ended.2.keys.isHeld key = true ↔
      ∃ before c after, calls = before ++ c :: after ∧ c.Presses key ∧
        ∀ later ∈ after, ¬ later.Presses key ∧
          (later.Succeeds → later.now - c.now < 150000000)) ∧
    (calls.Pairwise (fun a b => a.now ≤ b.now) → (∀ c ∈ calls, c.Succeeds) →
      ∀ key, ended.2.keys.isHeld key = true ↔
        ∃ before c after, calls = before ++ c :: after ∧ c.Presses key ∧
          (∀ later ∈ after, ¬ later.Presses key) ∧
          ((c :: after).getLast (List.cons_ne_nil _ _)).now - c.now < 150000000) ∧
    (∀ c : PumpCall, (ended.1.turn c.now c.reading ended.2).result = .ok () ↔ c.Succeeds) ∧
    ∀ now reason, let failed := ended.1.turn now (.error reason) ended.2
      failed.result = .error reason ∧ failed.shared = ended.2 ∧ failed.pump = ended.1 := by
  intro ended
  have hheld : ∀ key, ended.2.keys.isHeld key = true ↔
      ∃ before c after, calls = before ++ c :: after ∧ c.Presses key ∧
        ∀ later ∈ after, ¬ later.Presses key ∧
          (later.Succeeds → later.now - c.now < 150000000) := by
    intro key
    rw [agrees_afterAll controls calls key, Option.isSome_iff_exists]
    constructor
    · rintro ⟨pressed, hentry⟩
      obtain ⟨before, c, after, hsplit, hpress, rfl, hafter⟩ :=
        (entry_afterAll_iff _ calls key pressed).mp hentry
      exact ⟨before, c, after, hsplit, hpress, hafter⟩
    · rintro ⟨before, c, after, hsplit, hpress, hafter⟩
      exact ⟨c.now, (entry_afterAll_iff _ calls key c.now).mpr
        ⟨before, c, after, hsplit, hpress, rfl, hafter⟩⟩
  refine ⟨hheld, ?_, ?_, ?_⟩
  · intro hsteady hgood key
    rw [hheld]
    refine exists_congr fun before => exists_congr fun c => exists_congr fun after => ?_
    refine and_congr_right fun hsplit => and_congr_right fun _ => ?_
    subst hsplit
    rw [← forall_recent_iff (List.pairwise_append.mp hsteady).2.1
      fun later hlater => hgood later (by simp [hlater])]
    constructor
    · exact fun hafter => ⟨fun later hlater => (hafter later hlater).1,
        fun later hlater => (hafter later hlater).2⟩
    · exact fun hafter later hlater => ⟨hafter.1 later hlater, hafter.2 later hlater⟩
  · rintro ⟨now, reading⟩
    cases reading with
    | error reason =>
        rw [turn_error]
        constructor
        · intro hresult
          cases hresult
        · rintro ⟨event, hevent⟩
          cases hevent
    | ok event => exact iff_of_true (turn_result ..) ⟨event, rfl⟩
  · intro now reason
    simp only [turn_error, and_self]

/-- A key that is pressed again after 100 ms, by a number of more than four bits, is still held
after 220 ms. -/
theorem isHeld_iff_recent_press_refreshed :
    let calls : List PumpCall := [⟨0, .ok (some (.key 5))⟩, ⟨100000000, .ok (some (.key 21))⟩,
      ⟨220000000, .ok (some .pause)⟩]
    (calls.Pairwise (fun a b => a.now ≤ b.now) ∧ ∀ c ∈ calls, c.Succeeds) ∧
      (afterAll (idle, ⟨Keypad.released, ⟨false, false, false⟩⟩) calls).2.keys.isHeld 5 = true := by
  intro calls
  have hsteady : calls.Pairwise fun a b => a.now ≤ b.now := by simp [calls]
  have hgood : ∀ c ∈ calls, c.Succeeds := by simp [calls, PumpCall.Succeeds]
  refine ⟨⟨hsteady, hgood⟩, ?_⟩
  refine ((isHeld_iff_recent_press _ calls).2.1 hsteady hgood 5).mpr ?_
  refine ⟨[⟨0, .ok (some (.key 5))⟩], ⟨100000000, .ok (some (.key 21))⟩,
    [⟨220000000, .ok (some .pause)⟩], rfl, ⟨21, rfl, by decide⟩, ?_, by decide⟩
  intro later hlater
  obtain rfl := List.mem_singleton.mp hlater
  rintro ⟨number, hreading, -⟩
  simp at hreading

end Pump

end Chip8
