import Mathlib.Data.List.Induction
import Chip8.Proofs.LoopAccess

/-!
# What the sound device is told

The sound device is called only when its state has to change, so its calls are a start, a stop, a
start and so on. A call may fail; the failure is reported in the log, and the device is left alone from
then on. `Record` says what a journal with such a history looks like, and `Played` how it shows in the
emulator. Everything that the emulator does keeps them. As long as the device works, it follows the
sound timer after every instruction, and the loop silences it at its end.
-/

namespace Chip8

/-! ## The calls in a journal -/

namespace Happening

/-- The call of the sound device that an entry of the journal tells of, if it does. -/
def call? : Happening → Option BuzzerCall
  | .buzzer call => some call
  | .frame _ _ | .log _ => none

/-- The entry reports that the sound device is left alone from now on. -/
def isWarning : Happening → Bool
  | .log (.soundDisabled _) => true
  | _ => false

/-- The entry has to do with the sound device. -/
def isSound (h : Happening) : Bool := h.call?.isSome || h.isWarning

theorem isSound_eq_false_iff {h : Happening} :
    h.isSound = false ↔ h.call? = none ∧ h.isWarning = false := by
  simp [isSound]

theorem isSound_log {line : LogLine} (h : line.origin = .interpreter) :
    isSound (.log line) = false := by
  cases line with
  | soundDisabled reason => cases h
  | _ => rfl

end Happening

/-- The calls of the sound device in a part of a journal. -/
def callsIn (happenings : List Happening) : List BuzzerCall := happenings.filterMap Happening.call?

theorem callsIn_append (happenings more : List Happening) :
    callsIn (happenings ++ more) = callsIn happenings ++ callsIn more :=
  List.filterMap_append

theorem callsIn_of_quiet {happenings : List Happening}
    (h : ∀ x ∈ happenings, x.isSound = false) : callsIn happenings = [] :=
  List.filterMap_eq_nil_iff.mpr fun x hx => (Happening.isSound_eq_false_iff.mp (h x hx)).1

/-- Why a call fails that comes after the given ones, if it does. -/
def Surroundings.failure (s : Surroundings) (before : List BuzzerCall) (call : BuzzerCall) :
    Option String :=
  s.buzzer call (before.count call + 1)

/-- None of the calls fails. -/
def AllGoWell (s : Surroundings) (calls : List BuzzerCall) : Prop :=
  ∀ before call after, calls = before ++ call :: after → s.failure before call = none

theorem allGoWell_nil (s : Surroundings) : AllGoWell s [] := by
  intro before call after h
  simp at h

theorem allGoWell_snoc {s : Surroundings} {calls : List BuzzerCall} {call : BuzzerCall}
    (h : AllGoWell s calls) (hcall : s.failure calls call = none) :
    AllGoWell s (calls ++ [call]) := by
  intro before other after hsplit
  cases after using List.reverseRecOn with
  | nil =>
      obtain ⟨rfl, hlast⟩ := List.append_inj' hsplit rfl
      obtain rfl := List.singleton_inj.mp hlast
      exact hcall
  | append_singleton after last =>
      rw [← List.cons_append, ← List.append_assoc] at hsplit
      obtain ⟨hbefore, -⟩ := List.append_inj' hsplit rfl
      exact h before other after hbefore

/-- What a journal tells of the sound device, in order. Either all its calls have gone well and there
is no warning; or those before some call have, this call has failed and the warning about it follows at
once, and after it there is neither a call nor a warning. -/
inductive Record (s : Surroundings) : List Happening → (failed : Option BuzzerCall) → Prop
  | working {happenings : List Happening} (hcalls : AllGoWell s (callsIn happenings))
      (hwarning : ∀ h ∈ happenings, h.isWarning = false) : Record s happenings none
  | disabled {before after : List Happening} {call : BuzzerCall} {reason : String}
      (hbefore : Record s before none) (hfailure : s.failure (callsIn before) call = some reason)
      (hafter : ∀ h ∈ after, h.isSound = false) :
      Record s (before ++ .buzzer call :: .log (.soundDisabled reason) :: after) (some call)

namespace Record

variable {s : Surroundings} {happenings more : List Happening} {failed : Option BuzzerCall}
  {call : BuzzerCall}

theorem quiet (h : Record s happenings failed) (hmore : ∀ x ∈ more, x.isSound = false) :
    Record s (happenings ++ more) failed := by
  cases h with
  | working hcalls hwarning =>
      refine .working ?_ ?_
      · rw [callsIn_append, callsIn_of_quiet hmore, List.append_nil]
        exact hcalls
      · intro x hx
        rcases List.mem_append.mp hx with hx | hx
        · exact hwarning x hx
        · exact (Happening.isSound_eq_false_iff.mp (hmore x hx)).2
  | disabled hbefore hfailure hafter =>
      rw [List.append_assoc, List.cons_append, List.cons_append]
      exact .disabled hbefore hfailure (List.forall_mem_append.mpr ⟨hafter, hmore⟩)

theorem succeeds (h : Record s happenings none)
    (hcall : s.failure (callsIn happenings) call = none) :
    Record s (happenings ++ [.buzzer call]) none := by
  cases h with
  | working hcalls hwarning =>
      refine .working ?_ ?_
      · rw [callsIn_append]
        exact allGoWell_snoc hcalls hcall
      · exact List.forall_mem_append.mpr ⟨hwarning, fun x hx => List.mem_singleton.mp hx ▸ rfl⟩

/-- A call that fails is one of those in the journal. -/
theorem exists_of_failed (h : Record s happenings (some call)) :
    ∃ before after, callsIn happenings = before ++ call :: after ∧ s.failure before call ≠ none := by
  cases h with
  | @disabled before after _ reason hbefore hfailure hafter =>
      refine ⟨callsIn before, [], ?_, by simp [hfailure]⟩
      rw [callsIn_append]
      simp only [callsIn, List.filterMap_cons, Happening.call?]
      rw [show List.filterMap Happening.call? after = [] from callsIn_of_quiet hafter]

theorem failed_eq_none (h : Record s happenings failed) (hcalls : AllGoWell s (callsIn happenings)) :
    failed = none := by
  cases failed with
  | none => rfl
  | some call =>
      obtain ⟨before, after, hsplit, hfailure⟩ := h.exists_of_failed
      exact absurd (hcalls before call after hsplit) hfailure

end Record

/-- The calls of a device that is started and stopped in turn. -/
def nthCall (n : Nat) : BuzzerCall := if n % 2 = 0 then .start else .stop

/-! ## The device and the emulator -/

namespace Buzzer

theorem needed_eq_none {b : Buzzer} {active : Bool} (h : b.needed active = none) :
    b.sounding = active := by
  unfold needed at h
  split at h
  next hsame => exact hsame.symm
  next => cases h

/-- Only a silent device is started, and only a sounding one is stopped. -/
theorem needed_eq_some {b : Buzzer} {active : Bool} {call : BuzzerCall}
    (h : b.needed active = some call) :
    b.sounding = (call == .stop) ∧ active = (call == .start) := by
  unfold needed at h
  split at h
  next => cases h
  next hdiffer =>
    obtain rfl := Option.some.inj h
    cases active with
    | true =>
        have hsilent : b.sounding = false := by simpa using hdiffer
        exact ⟨hsilent, rfl⟩
    | false =>
        have hsounding : b.sounding = true := by simpa using hdiffer
        exact ⟨hsounding, rfl⟩

theorem nextNumber_call (b : Buzzer) (c other : BuzzerCall) (goesWell : Bool) :
    (b.call c goesWell).nextNumber other = b.nextNumber other + if c = other then 1 else 0 := by
  cases c <;> cases other <;> cases goesWell <;> rfl

theorem sounding_call (b : Buzzer) (c : BuzzerCall) (goesWell : Bool) :
    (b.call c goesWell).sounding = if goesWell then c == .start else b.sounding := by
  cases c <;> cases goesWell <;> rfl

end Buzzer

/-! ## What a step tells the device -/

namespace Machine

theorem origin_execute (m : Machine) (address : Word) (ins : Instruction) :
    ∀ line ∈ (m.execute address ins).log, line.origin = .interpreter := by
  cases ins with
  | ret =>
      simp only [execute, executeReturn]
      split <;> simp [done, LogLine.origin]
  | call target =>
      simp only [execute, executeCall]
      split <;> simp [done, LogLine.origin]
  | awaitKey x =>
      simp only [execute, executeAwaitKey]
      split <;> simp [done, LogLine.origin]
  | _ => exact List.forall_mem_nil _

/-- A step reports nothing in the name of the emulator. -/
theorem origin_step (m : Machine) (now : Instant) :
    ∀ line ∈ (m.step now).log, line.origin = .interpreter := by
  have houtcome := m.step_outcome now
  generalize m.step now = outcome at houtcome
  cases houtcome with
  | runaway _ | undecoded _ _ => exact List.forall_mem_nil _
  | refused _ _ _ => exact List.forall_mem_singleton.mpr rfl
  | @finished ins redraw next log hpc hword heffect =>
      have hlog := origin_execute m.advance m.pc ins
      rw [heffect] at hlog
      exact List.forall_mem_cons.mpr ⟨rfl, hlog⟩

/-- A step that goes well tells whether the sound timer runs. -/
theorem sound_step {m : Machine} {now : Instant} {status : Status}
    (h : (m.step now).answer = .ok status) :
    status.sound = ((m.step now).machine.timers.sound != 0) := by
  have houtcome := m.step_outcome now
  generalize m.step now = outcome at h houtcome
  cases houtcome with
  | runaway _ | undecoded _ _ | refused _ _ _ => cases h
  | finished hpc hword heffect =>
      obtain rfl := Except.ok.inj h
      rfl

end Machine

namespace Emulator

/-- What the emulator has done, in order. -/
def happenings (e : Emulator) : List Happening := e.journal.reverse

/-- The calls of the sound device, in order. -/
def calls (e : Emulator) : List BuzzerCall := callsIn e.happenings

theorem happenings_note (e : Emulator) (h : Happening) :
    (e.note h).happenings = e.happenings ++ [h] :=
  List.reverse_cons

/-- The sound device and its part in the journal are the same. -/
structure SameSound (a b : Emulator) : Prop where
  buzzer : b.buzzer = a.buzzer
  flag : b.soundFailed = a.soundFailed
  journal : ∃ more, b.happenings = a.happenings ++ more ∧ ∀ h ∈ more, h.isSound = false

namespace SameSound

variable {a b c : Emulator}

theorem of_eq (hbuzzer : b.buzzer = a.buzzer) (hflag : b.soundFailed = a.soundFailed)
    (hjournal : b.journal = a.journal) : SameSound a b where
  buzzer := hbuzzer
  flag := hflag
  journal := ⟨[], by rw [happenings, hjournal, happenings, List.append_nil], by simp⟩

theorem trans (hab : SameSound a b) (hbc : SameSound b c) : SameSound a c where
  buzzer := hbc.buzzer.trans hab.buzzer
  flag := hbc.flag.trans hab.flag
  journal := by
    obtain ⟨first, hfirst, hquiet⟩ := hab.journal
    obtain ⟨second, hsecond, hquiet'⟩ := hbc.journal
    refine ⟨first ++ second, ?_, List.forall_mem_append.mpr ⟨hquiet, hquiet'⟩⟩
    rw [hsecond, hfirst, List.append_assoc]

theorem note (e : Emulator) {h : Happening} (hquiet : h.isSound = false) :
    SameSound e (e.note h) where
  buzzer := rfl
  flag := rfl
  journal := ⟨[h], happenings_note e h, fun _ hx => List.mem_singleton.mp hx ▸ hquiet⟩

theorem noteLog (e : Emulator) {lines : List LogLine}
    (hlines : ∀ line ∈ lines, line.origin = .interpreter) : SameSound e (e.noteLog lines) := by
  induction lines generalizing e with
  | nil => exact .of_eq rfl rfl rfl
  | cons line lines ih =>
      rw [List.forall_mem_cons] at hlines
      exact (SameSound.note e (Happening.isSound_log hlines.1)).trans (ih _ hlines.2)

end SameSound

/-- What can come of making the device sound or be silent. -/
inductive Synced (s : Surroundings) (active : Bool) (e : Emulator) : Emulator → Prop
  /-- The device has failed before and is left alone. -/
  | leftAlone (hflag : e.soundFailed = true) : Synced s active e e
  /-- The device does so already. -/
  | already (hflag : e.soundFailed = false) (hneeded : e.buzzer.needed active = none) :
      Synced s active e e
  | wentWell {call : BuzzerCall} (hflag : e.soundFailed = false)
      (hneeded : e.buzzer.needed active = some call)
      (hfailure : s.buzzer call (e.buzzer.nextNumber call) = none) :
      Synced s active e ({ e with buzzer := e.buzzer.call call true }.note (.buzzer call))
  | failed {call : BuzzerCall} {reason : String} (hflag : e.soundFailed = false)
      (hneeded : e.buzzer.needed active = some call)
      (hfailure : s.buzzer call (e.buzzer.nextNumber call) = some reason) :
      Synced s active e
        (({ e with buzzer := e.buzzer.call call false, soundFailed := true }.note
          (.buzzer call)).note (.log (.soundDisabled reason)))

theorem synced_syncSound (s : Surroundings) (active : Bool) (e : Emulator) :
    Synced s active e (e.syncSound s active) := by
  unfold syncSound
  split
  next hflag => exact .leftAlone hflag
  next hflag =>
    have hflag : e.soundFailed = false := Bool.eq_false_iff.mpr hflag
    cases hneeded : e.buzzer.needed active with
    | none => exact .already hflag hneeded
    | some call =>
        cases hfailure : s.buzzer call (e.buzzer.nextNumber call) with
        | none =>
            simp only [hfailure]
            exact .wentWell hflag hneeded hfailure
        | some reason =>
            simp only [hfailure]
            exact .failed hflag hneeded hfailure

/-- Whether a frame can be drawn depends on what happens meanwhile alone. -/
theorem answer_disturb (a b : Emulator) (ds : List Disturbance) :
    (a.disturb ds).2 = (b.disturb ds).2 := by
  induction ds generalizing a b with
  | nil => rfl
  | cons d ds ih =>
      cases d with
      | failure reason => rfl
      | quit _ | paused _ | stepOnce _ | key _ _ => exact ih _ _

theorem sameSound_disturb (e : Emulator) (ds : List Disturbance) :
    SameSound e (e.disturb ds).1 ∧ (e.disturb ds).1.machine.timers = e.machine.timers := by
  induction ds generalizing e with
  | nil => exact ⟨.of_eq rfl rfl rfl, rfl⟩
  | cons d ds ih =>
      cases d with
      | failure reason => exact ⟨.of_eq rfl rfl rfl, rfl⟩
      | quit _ | paused _ | stepOnce _ | key _ _ =>
          obtain ⟨⟨hbuzzer, hflag, hjournal⟩, htimers⟩ := ih _
          exact ⟨⟨hbuzzer, hflag, hjournal⟩, htimers⟩

/-- A frame is nothing to the sound device or the timers. -/
theorem sameSound_present (s : Surroundings) (e : Emulator) :
    SameSound e (e.present s).1 ∧ (e.present s).1.machine.timers = e.machine.timers := by
  obtain ⟨hsame, htimers⟩ := sameSound_disturb
    ({ e with frames := e.frames + 1 }.note (.frame (e.frames + 1) e.frame))
    (s.screen (e.frames + 1))
  have hcount : SameSound e { e with frames := e.frames + 1 } := .of_eq rfl rfl rfl
  have hnote := hcount.trans (.note _ (h := .frame (e.frames + 1) e.frame) rfl)
  exact ⟨hnote.trans hsame, htimers⟩

/-- Whether a device sounds that has been started and stopped in turn so many times, if the last of
these calls is the one that has failed, or none has. -/
def soundsAfter (calls : Nat) : Option BuzzerCall → Bool
  | none => calls % 2 == 1
  | some call => call == .stop

/-- What the emulator has done to the sound device: the calls alternate, and the device sounds after
each start that goes well until a stop that does. -/
structure Played (s : Surroundings) (failed : Option BuzzerCall) (e : Emulator) : Prop where
  record : Record s e.happenings failed
  alternate : e.calls = (List.range e.calls.length).map nthCall
  flag : e.soundFailed = failed.isSome
  sounding : e.buzzer.sounding = soundsAfter e.calls.length failed
  numbers : ∀ call, e.buzzer.nextNumber call = e.calls.count call + 1

namespace Played

variable {s : Surroundings} {failed : Option BuzzerCall} {e next : Emulator}

theorem start (s : Surroundings) (machine : Machine) (config : Config) :
    Played s none (Emulator.start machine config) where
  record := .working (allGoWell_nil s) (List.forall_mem_nil _)
  alternate := rfl
  flag := rfl
  sounding := rfl
  numbers := fun call => by cases call <;> rfl

theorem sameSound (h : Played s failed e) (hsame : SameSound e next) : Played s failed next := by
  obtain ⟨more, hmore, hquiet⟩ := hsame.journal
  have hcalls : next.calls = e.calls := by
    rw [calls, hmore, callsIn_append, callsIn_of_quiet hquiet, List.append_nil]
    rfl
  refine ⟨?_, ?_, ?_, ?_, ?_⟩
  · rw [hmore]
    exact h.record.quiet hquiet
  · rw [hcalls]
    exact h.alternate
  · rw [hsame.flag]
    exact h.flag
  · rw [hsame.buzzer, hcalls]
    exact h.sounding
  · rw [hsame.buzzer, hcalls]
    exact h.numbers

/-- The device can only be told what is next in turn. -/
theorem eq_nthCall (h : Played s none e) {active : Bool} {call : BuzzerCall}
    (hneeded : e.buzzer.needed active = some call) : call = nthCall e.calls.length := by
  have hparity := h.sounding.symm.trans (Buzzer.needed_eq_some hneeded).1
  cases call with
  | start =>
      have hodd : ¬e.calls.length % 2 = 1 := by simpa [soundsAfter] using hparity
      have heven : e.calls.length % 2 = 0 := by omega
      simp [nthCall, heven]
  | stop =>
      have hodd : e.calls.length % 2 = 1 := by simpa [soundsAfter] using hparity
      simp [nthCall, hodd]

/-- After a call that goes well a device that works sounds as the number of calls says. -/
theorem sounding_snoc (h : Played s none e) {active : Bool} {call : BuzzerCall}
    (hneeded : e.buzzer.needed active = some call) :
    (call == .start) = soundsAfter (e.calls ++ [call]).length none := by
  rw [h.eq_nthCall hneeded, List.length_append, List.length_singleton, soundsAfter, nthCall]
  split
  next heven => simp [show (e.calls.length + 1) % 2 = 1 by omega]
  next hodd => simp [show (e.calls.length + 1) % 2 = 0 by omega]

theorem failure_eq (h : Played s none e) (call : BuzzerCall) :
    s.failure (callsIn e.happenings) call = s.buzzer call (e.buzzer.nextNumber call) := by
  rw [h.numbers call]
  rfl

theorem calls_note_buzzer (e : Emulator) (call : BuzzerCall) :
    (e.note (.buzzer call)).calls = e.calls ++ [call] := by
  rw [calls, happenings_note, callsIn_append]
  rfl

theorem calls_note_warning (e : Emulator) (reason : String) :
    (e.note (.log (.soundDisabled reason))).calls = e.calls := by
  rw [calls, happenings_note, callsIn_append]
  exact List.append_nil _

theorem alternate_snoc (h : Played s none e) {active : Bool} {call : BuzzerCall}
    (hneeded : e.buzzer.needed active = some call) :
    e.calls ++ [call] = (List.range (e.calls ++ [call]).length).map nthCall := by
  rw [List.length_append, List.length_singleton, List.range_succ, List.map_append,
    ← h.alternate, h.eq_nthCall hneeded]
  rfl

theorem numbers_snoc (h : Played s none e) (call other : BuzzerCall) (goesWell : Bool) :
    (e.buzzer.call call goesWell).nextNumber other = (e.calls ++ [call]).count other + 1 := by
  rw [Buzzer.nextNumber_call, h.numbers, List.count_append, List.count_singleton]
  by_cases hcall : call = other <;> simp [hcall]

/-- A device that works is told what is next in turn, if anything, and does as it is told unless this
call fails. -/
theorem syncSound (h : Played s failed e) (active : Bool) :
    ∃ failed, Played s failed (e.syncSound s active) ∧
      (failed = none → (e.syncSound s active).buzzer.sounding = active) := by
  have hsynced := synced_syncSound s active e
  generalize e.syncSound s active = next at hsynced ⊢
  have hworks (hflag : e.soundFailed = false) : failed = none := by
    rw [h.flag, Option.isSome_eq_false_iff, Option.isNone_iff_eq_none] at hflag
    exact hflag
  cases hsynced with
  | leftAlone hflag =>
      refine ⟨failed, h, ?_⟩
      rintro rfl
      exact absurd (h.flag.symm.trans hflag) Bool.false_ne_true
  | already hflag hneeded => exact ⟨failed, h, fun _ => Buzzer.needed_eq_none hneeded⟩
  | @wentWell call hflag hneeded hfailure =>
      obtain rfl := hworks hflag
      refine ⟨none, ⟨?_, ?_, hflag, ?_, ?_⟩, ?_⟩
      · rw [happenings_note]
        exact h.record.succeeds ((h.failure_eq call).trans hfailure)
      · rw [calls_note_buzzer]
        exact h.alternate_snoc hneeded
      · rw [calls_note_buzzer]
        exact (Buzzer.sounding_call e.buzzer call true).trans (h.sounding_snoc hneeded)
      · intro other
        rw [calls_note_buzzer]
        exact h.numbers_snoc call other true
      · intro _
        rw [(Buzzer.needed_eq_some hneeded).2]
        exact Buzzer.sounding_call e.buzzer call true
  | @failed call reason hflag hneeded hfailure =>
      obtain rfl := hworks hflag
      refine ⟨some call, ⟨?_, ?_, rfl, ?_, ?_⟩, fun h => nomatch h⟩
      · rw [happenings_note, happenings_note, List.append_assoc]
        exact .disabled h.record ((h.failure_eq call).trans hfailure) (by simp)
      · rw [calls_note_warning, calls_note_buzzer]
        exact h.alternate_snoc hneeded
      · rw [soundsAfter, ← (Buzzer.needed_eq_some hneeded).1]
        exact Buzzer.sounding_call e.buzzer call false
      · intro other
        rw [calls_note_warning, calls_note_buzzer]
        exact h.numbers_snoc call other false

end Played

/-- The device has been played, and if it works, it sounds or is silent as wanted. -/
def Heard (s : Surroundings) (wanted : Option Bool) (e : Emulator) : Prop :=
  ∃ failed, Played s failed e ∧
    ∀ active, wanted = some active → failed = none → e.buzzer.sounding = active

namespace Heard

variable {s : Surroundings} {wanted : Option Bool} {e next : Emulator}

theorem start (s : Surroundings) (machine : Machine) (config : Config) :
    Heard s none (Emulator.start machine config) :=
  ⟨none, .start s machine config, fun _ h => nomatch h⟩

theorem sameSound (h : Heard s wanted e) (hsame : SameSound e next) : Heard s wanted next := by
  obtain ⟨failed, hplayed, hwanted⟩ := h
  refine ⟨failed, hplayed.sameSound hsame, ?_⟩
  rw [hsame.buzzer]
  exact hwanted

theorem played (h : Heard s wanted e) : Heard s none e := by
  obtain ⟨failed, hplayed, -⟩ := h
  exact ⟨failed, hplayed, fun _ h => nomatch h⟩

theorem syncSound (h : Heard s wanted e) (active : Bool) :
    Heard s (some active) (e.syncSound s active) := by
  obtain ⟨failed, hplayed, -⟩ := h
  obtain ⟨failed, hplayed, hsounding⟩ := hplayed.syncSound active
  refine ⟨failed, hplayed, ?_⟩
  intro _ hactive
  rw [← Option.some.inj hactive]
  exact hsounding

/-- As long as no call has failed, the device does as wanted. -/
theorem sounding (h : Heard s (some active) e) (hcalls : AllGoWell s e.calls) :
    e.buzzer.sounding = active := by
  obtain ⟨failed, hplayed, hwanted⟩ := h
  exact hwanted _ rfl (hplayed.record.failed_eq_none hcalls)

/-- A device that is to be silent is, unless a call to stop it has failed. -/
theorem silent (h : Heard s (some false) e) :
    e.buzzer.sounding = false ∨
      ∃ before after, e.calls = before ++ .stop :: after ∧ s.failure before .stop ≠ none := by
  obtain ⟨failed, hplayed, hwanted⟩ := h
  cases failed with
  | none => exact .inl (hwanted _ rfl rfl)
  | some call =>
      cases call with
      | start => exact .inl hplayed.sounding
      | stop => exact .inr hplayed.record.exists_of_failed

theorem withShared (h : Heard s wanted e) (shared : Shared) : Heard s wanted (e.withShared shared) :=
  h.sameSound (.of_eq rfl rfl rfl)

theorem present (h : Heard s wanted e) : Heard s wanted (e.present s).1 :=
  h.sameSound (sameSound_present s e).1

/-- An instruction that goes well lets the device follow the sound timer. -/
theorem instruct (h : Heard s wanted e) {answer : Except Fault Status}
    (hinstruct : e.instruct s = (next, answer)) :
    Heard s (answer.toOption.map fun _ => next.machine.timers.sound != 0) next := by
  have hmachine := (of_instruct hinstruct).1.machine
  have hstepped : SameSound e { e with
      machine := (e.machine.step (s.clock e.instructions)).machine
      instructions := e.instructions + 1 } := .of_eq rfl rfl rfl
  have hnoted := hstepped.trans (.noteLog _ (e.machine.origin_step (s.clock e.instructions)))
  unfold Emulator.instruct at hinstruct
  simp only at hinstruct
  split at hinstruct
  next fault hanswer =>
    cases hinstruct
    exact (h.sameSound hnoted).played
  next status hanswer =>
    cases hinstruct
    rw [hmachine]
    rw [Machine.sound_step hanswer]
    exact (h.sameSound hnoted).syncSound _

/-- A cycle whose instruction goes well leaves the device to follow the sound timer, also when its
frame cannot be drawn. -/
theorem cycle (h : Heard s wanted e) :
    Heard s ((e.instruct s).2.toOption.map fun _ => (e.cycle s).1.machine.timers.sound != 0)
      (e.cycle s).1 := by
  cases hinstruct : e.instruct s with
  | mk next answer =>
      have hnext := h.instruct hinstruct
      cases answer with
      | error fault => simpa only [Emulator.cycle, hinstruct] using hnext
      | ok status =>
          obtain ⟨hsame, htimers⟩ := sameSound_present s next
          have hshown : Heard s (some (next.machine.timers.sound != 0)) (next.present s).1 :=
            hnext.sameSound hsame
          rw [← htimers] at hshown
          simp only [Emulator.cycle, hinstruct]
          split
          next =>
            cases hpresent : next.present s with
            | mk drawn result =>
                rw [hpresent] at hshown
                cases result <;> exact hshown
          next => exact hnext

end Heard

end Emulator

/-! ## The device during a run -/

namespace RunLoop

open Emulator

variable {s : Surroundings} {opened : Bool} {l next : RunLoop}

/-- An instruction of the run has gone well, and the loop is not at its end. -/
def hasInstructed (l : RunLoop) : Bool :=
  match l.point with
  | .opening | .finished _ => false
  | .checking | .gate | .stepRequest | .instruction => 0 < l.executed
  | .looking _ | .drawing => true

/-- What a device that works does at a place of the loop. It follows the sound timer once an
instruction has gone well, and is silent at the end if the first frame could be drawn. -/
def wanted (opened : Bool) (l : RunLoop) : Option Bool :=
  match l.point with
  | .finished _ => if opened then some false else none
  | _ => if l.hasInstructed then some (l.emulator.machine.timers.sound != 0) else none

theorem wanted_of_hasInstructed (h : l.hasInstructed = true) (opened : Bool) :
    l.wanted opened = some (l.emulator.machine.timers.sound != 0) := by
  unfold wanted
  split
  next result hpoint =>
    rw [hasInstructed, hpoint] at h
    cases h
  next => rw [if_pos h]

/-- The device has heard what it has to at the place where the loop stands. Before the first frame
nothing has been run, and whether it can be drawn is known. -/
structure Tuned (s : Surroundings) (opened : Bool) (l : RunLoop) : Prop where
  heard : Heard s (l.wanted opened) l.emulator
  opening : l.point = .opening → l.executed = 0 ∧ (l.emulator.present s).2.isOk = opened

theorem Tuned.of_not_opening (hpoint : l.point ≠ .opening)
    (heard : Heard s (l.wanted opened) l.emulator) : Tuned s opened l :=
  ⟨heard, fun h => absurd h hpoint⟩

theorem heard_silenced {e : Emulator} {wanted : Option Bool} (h : Heard s wanted e) (opened : Bool) :
    Heard s (if opened then some false else none) (e.syncSound s false) := by
  cases opened with
  | true => exact h.syncSound false
  | false => exact (h.syncSound false).played

theorem Tuned.access (h : Tuned s opened l) (haccess : Access s l next) : Tuned s opened next := by
  obtain ⟨heard, hopening⟩ := h
  cases haccess with
  | @opened e e' n hpresent =>
      obtain rfl : (e.present s).1 = e' := congrArg Prod.fst hpresent
      obtain ⟨rfl, -⟩ := hopening rfl
      exact .of_not_opening nofun heard.present
  | @openingFailed e e' n fault hpresent =>
      have hopened : (e.present s).2.isOk = opened := (hopening rfl).2
      rw [hpresent] at hopened
      obtain rfl : false = opened := hopened
      obtain rfl : (e.present s).1 = e' := congrArg Prod.fst hpresent
      exact .of_not_opening nofun heard.present
  | ended _ =>
      exact .of_not_opening nofun ((heard_silenced heard opened).sameSound (.note _ rfl))
  | goesOn _ _ | running _ | paused _ | noFrame _ | frameDue _ | stays =>
      exact .of_not_opening nofun heard
  | granted _ | waited _ =>
      exact .of_not_opening nofun (heard.sameSound (.of_eq rfl rfl rfl))
  | carriedOut hinstruct => exact .of_not_opening nofun (heard.instruct hinstruct)
  | failed hinstruct =>
      exact .of_not_opening nofun (heard_silenced (heard.instruct hinstruct) opened)
  | @drawn e e' n hpresent =>
      obtain rfl : (e.present s).1 = e' := congrArg Prod.fst hpresent
      have hdrawn := heard.present
      rw [wanted, ← (sameSound_present s e).2] at hdrawn
      exact .of_not_opening nofun hdrawn
  | @drawingFailed e e' n fault hpresent =>
      obtain rfl : (e.present s).1 = e' := congrArg Prod.fst hpresent
      exact .of_not_opening nofun (heard_silenced heard.present opened)

theorem Tuned.overwritten (h : Tuned s opened l) (write : Shared → Shared) :
    Tuned s opened (l.overwritten write) where
  heard := h.heard.withShared _
  opening hpoint := by
    obtain ⟨hexecuted, hopened⟩ := h.opening hpoint
    refine ⟨hexecuted, ?_⟩
    rw [← hopened]
    exact congrArg Except.isOk (answer_disturb _ _ (s.screen (l.emulator.frames + 1)))

theorem tuned_after {e : Emulator} (h : Heard s none e) (others : Nat → Shared → Shared) (k : Nat) :
    Tuned s ((start e).emulator.present s).2.isOk (after s others (start e) k) := by
  have hstart : Tuned s ((start e).emulator.present s).2.isOk (start e) :=
    ⟨h.sameSound (.note _ rfl), fun _ => ⟨rfl, rfl⟩⟩
  induction k with
  | zero => exact hstart.overwritten (others 0)
  | succ k ih => exact (ih.access (access_advance s _)).overwritten (others (k + 1))

end RunLoop

end Chip8
