import Chip8.Proofs.SoundDevice

/-!
# A sound device that fails

A sound device that fails is left alone, and this is all that comes of it. `mute` forgets the device
and what the journal tells of it; whatever the emulator does next shows the same after it, whether the
calls that it makes go well or not. So two histories with the same screen and the same clock, but
different sound devices, carry out the same instructions, show the same frames and return the same.
-/

namespace Chip8

/-- The surroundings differ at most in the sound device. -/
structure Surroundings.SameButBuzzer (s t : Surroundings) : Prop where
  screen : t.screen = s.screen
  clock : t.clock = s.clock

namespace Emulator

variable {s t : Surroundings}

/-- The emulator without what it knows of its sound device. -/
def mute (e : Emulator) : Emulator :=
  { e with
    buzzer := Buzzer.silent
    soundFailed := false
    journal := e.journal.filter fun h => !h.isSound }

theorem mute_note (e : Emulator) {h : Happening} (hquiet : h.isSound = false) :
    (e.note h).mute = e.mute.note h := by
  simp [mute, note, hquiet]

theorem mute_note_sound (e : Emulator) {h : Happening} (hsound : h.isSound = true) :
    (e.note h).mute = e.mute := by
  simp [mute, note, hsound]

theorem mute_noteLog (e : Emulator) {lines : List LogLine}
    (hlines : ∀ line ∈ lines, line.origin = .interpreter) :
    (e.noteLog lines).mute = e.mute.noteLog lines := by
  induction lines generalizing e with
  | nil => rfl
  | cons line lines ih =>
      rw [List.forall_mem_cons] at hlines
      have hquiet := Happening.isSound_log hlines.1
      exact (ih _ hlines.2).trans (congrArg (noteLog · lines) (mute_note e hquiet))

theorem mute_syncSound (s : Surroundings) (active : Bool) (e : Emulator) :
    (e.syncSound s active).mute = e.mute := by
  have hsynced := synced_syncSound s active e
  generalize e.syncSound s active = next at hsynced ⊢
  cases hsynced with
  | leftAlone _ | already _ _ => rfl
  | wentWell _ _ _ => exact mute_note_sound _ rfl
  | failed _ _ _ => exact (mute_note_sound _ rfl).trans (mute_note_sound _ rfl)

/-- What an operation of the emulator gives, without what the emulator knows of its sound device. -/
def muted {α : Type} (given : Emulator × α) : Emulator × α := (given.1.mute, given.2)

theorem exists_of_muted {α : Type} {left right : Emulator × α} (h : muted left = muted right) :
    ∃ a b answer, left = (a, answer) ∧ right = (b, answer) ∧ a.mute = b.mute :=
  ⟨left.1, right.1, left.2, rfl, Prod.ext rfl (congrArg Prod.snd h).symm, congrArg Prod.fst h⟩

theorem muted_disturb (e : Emulator) (ds : List Disturbance) :
    muted (e.disturb ds) = e.mute.disturb ds := by
  induction ds generalizing e with
  | nil => rfl
  | cons d ds ih =>
      cases d with
      | failure reason => rfl
      | quit _ | paused _ | stepOnce _ | key _ _ => exact ih _

theorem muted_present (s : Surroundings) (e : Emulator) :
    muted (e.present s) = e.mute.present s := by
  have hnote := mute_note { e with frames := e.frames + 1 } (h := .frame (e.frames + 1) e.frame) rfl
  rw [present, muted_disturb, hnote]
  rfl

/-- An instruction of the emulator without the sound device: a step of its machine, counted and
reported. -/
theorem muted_instruct (s : Surroundings) (e : Emulator) :
    muted (e.instruct s) =
      let o := e.mute.machine.step (s.clock e.mute.instructions)
      ({ e.mute with machine := o.machine, instructions := e.mute.instructions + 1 }.noteLog o.log,
        o.answer) := by
  have hlog := mute_noteLog
    { e with
      machine := (e.machine.step (s.clock e.instructions)).machine
      instructions := e.instructions + 1 } (e.machine.origin_step (s.clock e.instructions))
  unfold instruct
  simp only
  split
  next fault hanswer => exact Prod.ext hlog hanswer.symm
  next status hanswer => exact Prod.ext ((mute_syncSound s _ _).trans hlog) hanswer.symm

variable {a b : Emulator}

theorem present_of_mute (h : s.SameButBuzzer t) (hmute : a.mute = b.mute) :
    muted (a.present s) = muted (b.present t) := by
  rw [muted_present, muted_present, hmute, present, present, h.screen]

theorem instruct_of_mute (h : s.SameButBuzzer t) (hmute : a.mute = b.mute) :
    muted (a.instruct s) = muted (b.instruct t) := by
  rw [muted_instruct, muted_instruct, hmute, h.clock]

theorem controls_of_mute (hmute : a.mute = b.mute) : a.controls = b.controls := by
  have hcontrols : a.mute.controls = b.mute.controls := congrArg Emulator.controls hmute
  exact hcontrols

theorem needsFrame_of_mute (hmute : a.mute = b.mute) (status : Status) :
    a.needsFrame status = b.needsFrame status := by
  rw [needsFrame, controls_of_mute hmute, needsFrame]

/-- Whether a call of the sound device fails makes no difference to a cycle. -/
theorem cycle_of_mute (h : s.SameButBuzzer t) (hmute : a.mute = b.mute) :
    muted (a.cycle s) = muted (b.cycle t) := by
  obtain ⟨a, b, answer, ha, hb, hmute⟩ := exists_of_muted (instruct_of_mute h hmute)
  simp only [cycle, ha, hb]
  cases answer with
  | error fault => exact Prod.ext hmute rfl
  | ok status =>
      simp only [needsFrame_of_mute hmute]
      split
      next =>
        obtain ⟨a, b, answer, ha, hb, hmute⟩ := exists_of_muted (present_of_mute h hmute)
        simp only [ha, hb]
        cases answer <;> exact Prod.ext hmute rfl
      next => exact Prod.ext hmute rfl

end Emulator

/-! ## A run -/

namespace RunLoop

open Emulator

variable {s t : Surroundings}

/-- The loop without what its emulator knows of the sound device. -/
def mute (l : RunLoop) : RunLoop := { l with emulator := l.emulator.mute }

theorem mute_eq {a b : Emulator} (hmute : a.mute = b.mute) (n : Nat) (point : LoopPoint) :
    mute ⟨a, n, point⟩ = mute ⟨b, n, point⟩ :=
  congrArg (RunLoop.mk · n point) hmute

theorem finish_of_mute {a b : Emulator} (hmute : a.mute = b.mute) (n : Nat) (point : LoopPoint)
    (result : Except Fault Nat) :
    (finish s ⟨a, n, point⟩ result).mute = (finish t ⟨b, n, point⟩ result).mute := by
  have hsilent : (a.syncSound s false).mute = (b.syncSound t false).mute := by
    rw [mute_syncSound, mute_syncSound, hmute]
  cases result with
  | error fault => exact mute_eq hsilent n _
  | ok count =>
      refine mute_eq ?_ n _
      rw [mute_note _ rfl, mute_note _ rfl, hsilent]

theorem advance_of_mute (h : s.SameButBuzzer t) {l other : RunLoop} (hloop : l.mute = other.mute) :
    (l.advance s).mute = (other.advance t).mute := by
  obtain ⟨a, n, point⟩ := l
  obtain ⟨b, m, place⟩ := other
  obtain ⟨hmute, rfl, rfl⟩ : a.mute = b.mute ∧ n = m ∧ point = place := RunLoop.mk.inj hloop
  have hcontrols := controls_of_mute hmute
  cases point with
  | opening =>
      obtain ⟨a, b, answer, ha, hb, hmute⟩ := exists_of_muted (present_of_mute h hmute)
      simp only [advance, ha, hb]
      cases answer <;> exact mute_eq hmute n _
  | checking =>
      have hlimit : a.mute.limit = b.mute.limit := congrArg Emulator.limit hmute
      have hend : limitReached ⟨a, n, .checking⟩ = limitReached ⟨b, n, .checking⟩ :=
        congrArg (fun limit => decide (0 < limit) && decide (limit ≤ n)) hlimit
      simp only [advance, hcontrols, hend]
      split
      next hends => exact finish_of_mute hmute n _ _
      next hgoesOn => exact mute_eq hmute n _
  | gate =>
      simp only [advance, hcontrols]
      exact mute_eq hmute n _
  | stepRequest =>
      simp only [advance, hcontrols]
      exact mute_eq (congrArg (fun e => { e with controls := b.controls.takeStep.2 }) hmute) n _
  | instruction =>
      obtain ⟨a, b, answer, ha, hb, hmute⟩ := exists_of_muted (instruct_of_mute h hmute)
      simp only [advance, ha, hb]
      cases answer with
      | error fault => exact finish_of_mute hmute n _ _
      | ok status => exact mute_eq hmute n _
  | looking status =>
      simp only [advance, needsFrame_of_mute hmute]
      split
      next => exact mute_eq hmute n _
      next => exact mute_eq hmute (n + 1) _
  | drawing =>
      obtain ⟨a, b, answer, ha, hb, hmute⟩ := exists_of_muted (present_of_mute h hmute)
      simp only [advance, ha, hb]
      cases answer with
      | error fault => exact finish_of_mute hmute n _ _
      | ok _ => exact mute_eq hmute (n + 1) _
  | finished result => exact mute_eq hmute n _

theorem after_of_mute (h : s.SameButBuzzer t) (others : Nat → Shared → Shared) {l other : RunLoop}
    (hmute : l.mute = other.mute) (k : Nat) :
    (after s others l k).mute = (after t others other k).mute := by
  induction k with
  | zero => exact congrArg (overwritten · (others 0)) hmute
  | succ k ih => exact congrArg (overwritten · (others (k + 1))) (advance_of_mute h ih)

end RunLoop

/-! ## Histories -/

/-- What is asked of an emulator, and what others write to the keypad and the controls meanwhile: a
cycle, or a run for a number of accesses of its loop, whether these take it to its end or not. -/
inductive Request where
  | cycle (write : Shared → Shared)
  | run (others : Nat → Shared → Shared) (accesses : Nat)

/-- What comes of a request: the result of a cycle, or the instructions that have gone well in a run
and the place where its loop stands. -/
inductive Response where
  | cycle (result : Except Fault Status)
  | run (executed : Nat) (point : LoopPoint)

namespace Emulator

variable {s t : Surroundings}

/-- Do what is asked. -/
def serve (s : Surroundings) (e : Emulator) : Request → Emulator × Response
  | .cycle write =>
    let (next, result) := (e.withShared (write e.shared)).cycle s
    (next, .cycle result)
  | .run others accesses =>
    let l := RunLoop.after s others (RunLoop.start e) accesses
    (l.emulator, .run l.executed l.point)

/-- Do all that is asked, in order. -/
def serveAll (s : Surroundings) (e : Emulator) : List Request → Emulator × List Response
  | [] => (e, [])
  | request :: requests =>
    let (next, response) := e.serve s request
    let (last, responses) := next.serveAll s requests
    (last, response :: responses)

/-- A run that returns has been asked for as many accesses as it takes. -/
theorem serve_run {fuel : Nat} {e e' : Emulator} {result : Except Fault Nat}
    (h : e.run s fuel = some (e', result)) :
    ∃ executed, e.serve s (.run RunLoop.alone fuel) = (e', .run executed (.finished result)) := by
  obtain ⟨rfl, hpoint⟩ := RunLoop.after_of_runFor h
  exact ⟨_, by rw [serve, hpoint]⟩

theorem heard_serve {wanted : Option Bool} {e : Emulator} (h : Heard s wanted e) (request : Request) :
    Heard s none (e.serve s request).1 := by
  cases request with
  | cycle write => exact (h.withShared _).cycle.played
  | run others accesses => exact (RunLoop.tuned_after h.played others accesses).heard.played

theorem heard_serveAll {e : Emulator} (h : Heard s none e) (requests : List Request) :
    Heard s none (e.serveAll s requests).1 := by
  induction requests generalizing e with
  | nil => exact h
  | cons request requests ih => exact ih (heard_serve h request)

theorem serve_of_mute (h : s.SameButBuzzer t) {a b : Emulator} (hmute : a.mute = b.mute)
    (request : Request) : muted (a.serve s request) = muted (b.serve t request) := by
  cases request with
  | cycle write =>
      have hwritten : (a.withShared (write a.shared)).mute = (b.withShared (write b.shared)).mute :=
        congrArg (fun e => e.withShared (write e.shared)) hmute
      obtain ⟨a', b', result, ha, hb, hmute⟩ := exists_of_muted (cycle_of_mute h hwritten)
      simp only [serve, ha, hb]
      exact Prod.ext hmute rfl
  | run others accesses =>
      have hstart : (RunLoop.start a).mute = (RunLoop.start b).mute :=
        congrArg RunLoop.start hmute
      have hafter := RunLoop.after_of_mute h others hstart accesses
      have hresponse := congrArg (fun l : RunLoop => Response.run l.executed l.point) hafter
      exact Prod.ext (congrArg RunLoop.emulator hafter) hresponse

theorem serveAll_of_mute (h : s.SameButBuzzer t) {a b : Emulator} (hmute : a.mute = b.mute)
    (requests : List Request) : muted (a.serveAll s requests) = muted (b.serveAll t requests) := by
  induction requests generalizing a b with
  | nil => exact Prod.ext hmute rfl
  | cons request requests ih =>
      obtain ⟨a, b, response, ha, hb, hmute⟩ := exists_of_muted (serve_of_mute h hmute request)
      obtain ⟨a, b, responses, ha', hb', hmute⟩ := exists_of_muted (ih hmute)
      simp only [serveAll, ha, hb, ha', hb']
      exact Prod.ext hmute rfl

/-- After whatever cycles and runs an emulator has been asked for: it has called its sound device to
start and to stop in turn, and once a call has failed, which it reports at once, it has not called it
again. As long as none has, the device sounds after an instruction that goes well exactly if the sound
timer runs. At the end of a run that has shown its first frame the device is silent, unless a call to
stop it has failed. Other surroundings in which only the sound device differs leave the same machine,
frames and reports, and make every cycle and run return the same. -/
theorem sound_device_discipline (s : Surroundings) (machine : Machine) (config : Config)
    (requests : List Request) :
    let e := ((start machine config).serveAll s requests).1
    (e.calls = (List.range e.calls.length).map nthCall ∧
      ∃ failed, Record s e.happenings failed) ∧
    (∀ write : Shared → Shared,
      let before := e.withShared (write e.shared)
      let now := (before.cycle s).1
      (before.machine.step (s.clock before.instructions)).answer.isOk = true →
        AllGoWell s now.calls → now.buzzer.sounding = (now.machine.timers.sound != 0)) ∧
    (∀ others k,
      let l := RunLoop.after s others (RunLoop.start e) k
      (l.hasInstructed = true → AllGoWell s l.emulator.calls →
        l.emulator.buzzer.sounding = (l.emulator.machine.timers.sound != 0)) ∧
      ∀ result, l.point = .finished result →
        ((RunLoop.start e).emulator.present s).2.isOk = true →
          l.emulator.buzzer.sounding = false ∨
            ∃ before after, l.emulator.calls = before ++ .stop :: after ∧
              s.failure before .stop ≠ none) ∧
    ∀ t, s.SameButBuzzer t →
      muted ((start machine config).serveAll s requests) =
        muted ((start machine config).serveAll t requests) := by
  have hheard := heard_serveAll (.start s machine config) requests
  refine ⟨?_, ?_, ?_, ?_⟩
  · obtain ⟨failed, hplayed, -⟩ := hheard
    exact ⟨hplayed.alternate, failed, hplayed.record⟩
  · intro write before now hanswer hcalls
    have hbefore : Heard s none before := hheard.withShared _
    have hcycle := hbefore.cycle
    rw [answer_instruct] at hcycle
    cases hstep : (before.machine.step (s.clock before.instructions)).answer with
    | error fault =>
        rw [hstep] at hanswer
        cases hanswer
    | ok status =>
        rw [hstep] at hcycle
        exact hcycle.sounding hcalls
  · intro others k l
    have htuned := (RunLoop.tuned_after hheard others k).heard
    refine ⟨?_, ?_⟩
    · intro hinstructed hcalls
      rw [RunLoop.wanted_of_hasInstructed hinstructed] at htuned
      exact htuned.sounding hcalls
    · intro result hpoint hopened
      rw [RunLoop.wanted, hpoint, hopened] at htuned
      exact htuned.silent
  · intro t ht
    exact serveAll_of_mute ht rfl requests

/-- A device that can be started but not stopped. -/
def unstoppable : Surroundings :=
  { Surroundings.calm 0 with
    buzzer := fun call _ => match call with
      | .start => none
      | .stop => some "no console" }

/-- A machine that sets its sound timer and then goes in a circle. -/
def beeping : Machine := Machine.holding [0x60, 0x20, 0xF0, 0x18, 0x12, 0x04]

/-- Settings that end a run after three instructions. -/
def threeSteps : Config := { Config.ofRom "" with cycles := 3 }

/-- The user stops the machine or lets it run again. -/
def setPaused (paused : Bool) : Shared → Shared := fun shared =>
  { shared with controls := { shared.controls with paused := paused } }

/-- The cycles after which the machine beeps. -/
def twoCycles : List Request := [.cycle (setPaused true), .cycle (setPaused false)]

/-- An emulator that beeps, on the device that cannot be stopped. -/
def sounding : Emulator := ((start beeping threeSteps).serveAll unstoppable twoCycles).1

/-- The emulator before its next cycle, at the end of which it shows a frame. -/
def held : Emulator := sounding.withShared (setPaused true sounding.shared)

/-- The run that may come next. -/
def lastRun : RunLoop := RunLoop.after unstoppable RunLoop.alone (RunLoop.start sounding) 20

theorem sound_device_discipline_unstoppable :
    ((held.machine.step (unstoppable.clock held.instructions)).answer.isOk = true ∧
        AllGoWell unstoppable (held.cycle unstoppable).1.calls ∧
        (∃ result, lastRun.point = .finished result) ∧
        ((RunLoop.start sounding).emulator.present unstoppable).2.isOk = true ∧
        unstoppable.SameButBuzzer (.calm 0)) ∧
      (held.cycle unstoppable).1.buzzer.sounding = true ∧
      (∃ before after, lastRun.emulator.calls = before ++ .stop :: after ∧
        unstoppable.failure before .stop ≠ none) ∧
      muted ((start beeping threeSteps).serveAll unstoppable twoCycles) =
        muted ((start beeping threeSteps).serveAll (.calm 0) twoCycles) := by
  have hcycle : (held.machine.step (unstoppable.clock held.instructions)).answer.isOk = true ∧
      (held.cycle unstoppable).1.calls = [.start] ∧
      ((held.cycle unstoppable).1.machine.timers.sound != 0) = true := by
    decide +kernel
  have hrun : ((RunLoop.start sounding).emulator.present unstoppable).2.isOk = true ∧
      (sounding.run unstoppable 20).isSome = true ∧
      lastRun.emulator.buzzer.sounding = true := by
    decide +kernel
  have hstart : AllGoWell unstoppable (held.cycle unstoppable).1.calls := by
    rw [hcycle.2.1]
    exact allGoWell_snoc (allGoWell_nil unstoppable) rfl
  obtain ⟨⟨_, result⟩, hreturns⟩ := Option.isSome_iff_exists.mp hrun.2.1
  obtain ⟨-, hfinished⟩ := RunLoop.after_of_runFor hreturns
  have hcalm : unstoppable.SameButBuzzer (.calm 0) := ⟨rfl, rfl⟩
  have hdiscipline := sound_device_discipline unstoppable beeping threeSteps twoCycles
  -- The names stand for large terms, which must not be compared by computing them.
  rw [show ((start beeping threeSteps).serveAll unstoppable twoCycles).1 = sounding from rfl]
    at hdiscipline
  obtain ⟨-, hcycles, hruns, hcompare⟩ := hdiscipline
  have hheld := hcycles (setPaused true)
  rw [show sounding.withShared (setPaused true sounding.shared) = held from rfl] at hheld
  refine ⟨⟨hcycle.1, hstart, ⟨result, hfinished⟩, hrun.1, hcalm⟩, ?_, ?_, hcompare _ hcalm⟩
  · exact (hheld hcycle.1 hstart).trans hcycle.2.2
  · refine ((hruns RunLoop.alone 20).2 result hfinished hrun.1).resolve_left ?_
    intro hsilent
    exact absurd (hsilent.symm.trans hrun.2.2) Bool.false_ne_true

end Emulator

end Chip8
