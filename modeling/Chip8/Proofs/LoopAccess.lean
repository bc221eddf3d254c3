import Chip8.Emulator.RunLoop
import Chip8.Proofs.Stepping

/-!
# The run loop, one access after the other

What the loop does to its emulator is said once for each thing it does: the sound
device leaves all that the loop decides by, an instruction is one step of the machine,
and a frame adds itself to those that have been shown, while whatever happens
meanwhile changes keys and controls alone. `Access` lists what an access of the loop
can do. `after` lets others write to the keypad and the controls before every access;
`run` is the case in which they never do.
-/

namespace Chip8

/-! ## What happens to the emulator -/

/-- The frame that an entry of the journal tells of, if it does. -/
def Happening.frame? : Happening → Option Frame
  | .frame _ picture => some picture
  | .buzzer _ | .log _ => none

/-- The operation is a step. -/
def Operation.isStep : Operation → Bool
  | .step _ => true
  | .load _ | .reset _ | .key _ _ | .releaseKeys => false

namespace Emulator

/-- The frames that have been handed to the screen, the latest one last. -/
def shown (e : Emulator) : List Frame := e.journal.reverse.filterMap Happening.frame?

theorem shown_note (e : Emulator) (h : Happening) :
    (e.note h).shown = e.shown ++ h.frame?.toList := by
  simp only [shown, note, List.reverse_cons, List.filterMap_append, List.filterMap_cons,
    List.filterMap_nil]
  cases h.frame? <;> rfl

/-- The emulators differ at most in the sound device and in entries of the journal that tell of no
frame. -/
structure UpToSound (a b : Emulator) : Prop where
  machine : b.machine = a.machine
  controls : b.controls = a.controls
  limit : b.limit = a.limit
  instructions : b.instructions = a.instructions
  shown : b.shown = a.shown

namespace UpToSound

theorem refl (e : Emulator) : UpToSound e e := ⟨rfl, rfl, rfl, rfl, rfl⟩

theorem trans {a b c : Emulator} (hab : UpToSound a b) (hbc : UpToSound b c) : UpToSound a c where
  machine := hbc.machine.trans hab.machine
  controls := hbc.controls.trans hab.controls
  limit := hbc.limit.trans hab.limit
  instructions := hbc.instructions.trans hab.instructions
  shown := hbc.shown.trans hab.shown

theorem frame {a b : Emulator} (h : UpToSound a b) : b.frame = a.frame := by
  rw [Emulator.frame, Emulator.frame, h.machine]

end UpToSound

theorem upToSound_note (e : Emulator) {h : Happening} (hframe : h.frame? = none) :
    UpToSound e (e.note h) where
  machine := rfl
  controls := rfl
  limit := rfl
  instructions := rfl
  shown := by rw [shown_note, hframe, Option.toList_none, List.append_nil]

theorem upToSound_noteLog (e : Emulator) (lines : List LogLine) :
    UpToSound e (e.noteLog lines) := by
  induction lines generalizing e with
  | nil => exact .refl e
  | cons line lines ih => exact (e.upToSound_note rfl).trans (ih _)

theorem upToSound_device (e : Emulator) (buzzer : Buzzer) (failed : Bool) :
    UpToSound e { e with buzzer := buzzer, soundFailed := failed } :=
  ⟨rfl, rfl, rfl, rfl, rfl⟩

/-- All that the loop does to the sound device concerns the sound alone. -/
theorem upToSound_syncSound (s : Surroundings) (active : Bool) (e : Emulator) :
    UpToSound e (e.syncSound s active) := by
  unfold syncSound
  split
  · exact .refl e
  · cases e.buzzer.needed active with
    | none => exact .refl e
    | some call =>
        simp only
        cases s.buzzer call (e.buzzer.nextNumber call) with
        | none => exact (upToSound_device e _ e.soundFailed).trans (upToSound_note _ rfl)
        | some reason =>
            have hcall := (upToSound_device e (e.buzzer.call call false) e.soundFailed).trans
              (upToSound_note _ (h := .buzzer call) rfl)
            exact hcall.trans ((upToSound_device _ _ true).trans (upToSound_note _ rfl))

/-- So is what the loop does when it ends. -/
theorem upToSound_stopped (s : Surroundings) (e : Emulator) (count : Nat) :
    UpToSound e ((e.syncSound s false).note (.log (.stopped count))) :=
  (upToSound_syncSound s false e).trans (upToSound_note _ rfl)

/-- An instruction of the emulator is a step of its machine, and counted. -/
theorem upToSound_instruct (s : Surroundings) (e : Emulator) :
    UpToSound { e with
      machine := (e.machine.step (s.clock e.instructions)).machine
      instructions := e.instructions + 1 } (e.instruct s).1 := by
  unfold instruct
  simp only
  split
  · exact upToSound_noteLog _ _
  · exact (upToSound_noteLog _ _).trans (upToSound_syncSound ..)

theorem answer_instruct (s : Surroundings) (e : Emulator) :
    (e.instruct s).2 = (e.machine.step (s.clock e.instructions)).answer := by
  unfold instruct
  simp only
  split <;> rename_i h <;> rw [h]

theorem of_instruct {s : Surroundings} {e next : Emulator} {answer : Except Fault Status}
    (h : e.instruct s = (next, answer)) :
    UpToSound { e with
        machine := (e.machine.step (s.clock e.instructions)).machine
        instructions := e.instructions + 1 } next ∧
      (e.machine.step (s.clock e.instructions)).answer = answer := by
  have hsound := upToSound_instruct s e
  have hanswer := answer_instruct s e
  rw [h] at hsound hanswer
  exact ⟨hsound, hanswer.symm⟩

/-- What may have happened to an emulator while a frame was drawn: keys and controls have changed,
and each change of a key is one of those that happened. -/
structure Disturbed (happened : List Disturbance) (a b : Emulator) : Prop where
  machine : ∃ ops : List Operation, b.machine = a.machine.afterAll ops ∧
    ∀ op ∈ ops, ∃ key down, op = .key key down ∧ .key key down ∈ happened
  frame : b.frame = a.frame
  limit : b.limit = a.limit
  instructions : b.instructions = a.instructions
  shown : b.shown = a.shown

theorem disturbed_controls (happened : List Disturbance) (e : Emulator) (controls : Controls) :
    Disturbed happened e { e with controls := controls } :=
  ⟨⟨[], rfl, by simp⟩, rfl, rfl, rfl, rfl⟩

theorem disturbed_key {happened : List Disturbance} (e : Emulator) {key : Key} {down : Bool}
    (h : .key key down ∈ happened) :
    Disturbed happened e
      { e with machine := { e.machine with keys := e.machine.keys.set key down } } :=
  ⟨⟨[.key key down], rfl, fun _ hop => ⟨key, down, List.mem_singleton.mp hop, h⟩⟩,
    rfl, rfl, rfl, rfl⟩

theorem Disturbed.trans {happened : List Disturbance} {a b c : Emulator}
    (hab : Disturbed happened a b) (hbc : Disturbed happened b c) : Disturbed happened a c where
  machine := by
    obtain ⟨ops, hops, hkeys⟩ := hab.machine
    obtain ⟨more, hmore, hkeys'⟩ := hbc.machine
    refine ⟨ops ++ more, by rw [Machine.afterAll_append, ← hops, hmore], ?_⟩
    intro op hop
    exact (List.mem_append.mp hop).elim (hkeys op) (hkeys' op)
  frame := hbc.frame.trans hab.frame
  limit := hbc.limit.trans hab.limit
  instructions := hbc.instructions.trans hab.instructions
  shown := hbc.shown.trans hab.shown

theorem disturbed_disturb {happened : List Disturbance} (e : Emulator) {ds : List Disturbance}
    (h : ∀ d ∈ ds, d ∈ happened) : Disturbed happened e (e.disturb ds).1 := by
  induction ds generalizing e with
  | nil => exact disturbed_controls happened e e.controls
  | cons d ds ih =>
      have hrest : ∀ d ∈ ds, d ∈ happened := fun d hd => h d (List.mem_cons_of_mem _ hd)
      cases d with
      | quit _ | paused _ | stepOnce _ => exact (disturbed_controls happened e _).trans (ih _ hrest)
      | key key down =>
          exact (disturbed_key e (h _ List.mem_cons_self)).trans (ih _ hrest)
      | failure _ => exact disturbed_controls happened e e.controls

/-- Showing a frame adds it to those that have been shown, also when the drawing fails. -/
theorem disturbed_present (s : Surroundings) (e : Emulator) :
    Disturbed (s.screen (e.frames + 1))
      ({ e with frames := e.frames + 1 }.note (.frame (e.frames + 1) e.frame)) (e.present s).1 :=
  disturbed_disturb _ fun _ hd => hd

theorem shown_present (s : Surroundings) (e : Emulator) :
    (e.present s).1.shown = e.shown ++ [e.frame] :=
  (disturbed_present s e).shown.trans (shown_note _ (.frame (e.frames + 1) e.frame))

theorem frame_present (s : Surroundings) (e : Emulator) : (e.present s).1.frame = e.frame :=
  (disturbed_present s e).frame

end Emulator

/-! ## One access -/

namespace RunLoop

variable (s : Surroundings)

/-- What an access of the loop can do. -/
inductive Access : RunLoop → RunLoop → Prop
  | opened {e e' : Emulator} {n : Nat} (h : e.present s = (e', .ok ())) :
      Access ⟨e, n, .opening⟩ ⟨e', n, .checking⟩
  | openingFailed {e e' : Emulator} {n : Nat} {fault : Fault}
      (h : e.present s = (e', .error fault)) :
      Access ⟨e, n, .opening⟩ ⟨e', n, .finished (.error fault)⟩
  | ended {e : Emulator} {n : Nat}
      (h : e.controls.quit = true ∨ 0 < e.limit ∧ e.limit ≤ n) :
      Access ⟨e, n, .checking⟩
        ⟨(e.syncSound s false).note (.log (.stopped n)), n, .finished (.ok n)⟩
  | goesOn {e : Emulator} {n : Nat} (hquit : e.controls.quit = false)
      (hlimit : 0 < e.limit → n < e.limit) : Access ⟨e, n, .checking⟩ ⟨e, n, .gate⟩
  | running {e : Emulator} {n : Nat} (h : e.controls.paused = false) :
      Access ⟨e, n, .gate⟩ ⟨e, n, .instruction⟩
  | paused {e : Emulator} {n : Nat} (h : e.controls.paused = true) :
      Access ⟨e, n, .gate⟩ ⟨e, n, .stepRequest⟩
  | granted {e : Emulator} {n : Nat} (h : e.controls.stepOnce = true) :
      Access ⟨e, n, .stepRequest⟩
        ⟨{ e with controls := { e.controls with stepOnce := false } }, n, .instruction⟩
  | waited {e : Emulator} {n : Nat} (h : e.controls.stepOnce = false) :
      Access ⟨e, n, .stepRequest⟩
        ⟨{ e with controls := { e.controls with stepOnce := false } }, n, .checking⟩
  | carriedOut {e e' : Emulator} {n : Nat} {status : Status} (h : e.instruct s = (e', .ok status)) :
      Access ⟨e, n, .instruction⟩ ⟨e', n, .looking status⟩
  | failed {e e' : Emulator} {n : Nat} {fault : Fault} (h : e.instruct s = (e', .error fault)) :
      Access ⟨e, n, .instruction⟩ ⟨e'.syncSound s false, n, .finished (.error fault)⟩
  | noFrame {e : Emulator} {n : Nat} {status : Status} (h : e.needsFrame status = false) :
      Access ⟨e, n, .looking status⟩ ⟨e, n + 1, .checking⟩
  | frameDue {e : Emulator} {n : Nat} {status : Status} (h : e.needsFrame status = true) :
      Access ⟨e, n, .looking status⟩ ⟨e, n, .drawing⟩
  | drawn {e e' : Emulator} {n : Nat} (h : e.present s = (e', .ok ())) :
      Access ⟨e, n, .drawing⟩ ⟨e', n + 1, .checking⟩
  | drawingFailed {e e' : Emulator} {n : Nat} {fault : Fault}
      (h : e.present s = (e', .error fault)) :
      Access ⟨e, n, .drawing⟩ ⟨e'.syncSound s false, n, .finished (.error fault)⟩
  | stays {e : Emulator} {n : Nat} {result : Except Fault Nat} :
      Access ⟨e, n, .finished result⟩ ⟨e, n, .finished result⟩

theorem limitReached_iff (l : RunLoop) :
    l.limitReached = true ↔ 0 < l.emulator.limit ∧ l.emulator.limit ≤ l.executed := by
  simp [limitReached]

theorem access_advance (l : RunLoop) : Access s l (l.advance s) := by
  obtain ⟨e, n, point⟩ := l
  cases point with
  | opening =>
      simp only [advance]
      split
      · exact .openingFailed ‹_›
      · exact .opened ‹_›
  | checking =>
      simp only [advance]
      split
      next hend =>
        rw [Bool.or_eq_true, limitReached_iff] at hend
        exact .ended hend
      next hend =>
        rw [Bool.or_eq_true, limitReached_iff, not_or, Bool.not_eq_true] at hend
        exact .goesOn hend.1 fun hlimit => Nat.lt_of_not_le fun hle => hend.2 ⟨hlimit, hle⟩
  | gate =>
      cases hpaused : e.controls.paused with
      | true => simpa [advance, hpaused] using Access.paused hpaused
      | false => simpa [advance, hpaused] using Access.running hpaused
  | stepRequest =>
      cases hstep : e.controls.stepOnce with
      | true => simpa [advance, Controls.takeStep, hstep] using Access.granted hstep
      | false => simpa [advance, Controls.takeStep, hstep] using Access.waited hstep
  | instruction =>
      simp only [advance]
      split
      · exact .failed ‹_›
      · exact .carriedOut ‹_›
  | looking status =>
      cases hframe : e.needsFrame status with
      | true => simpa [advance, hframe] using Access.frameDue hframe
      | false => simpa [advance, hframe, completed] using Access.noFrame hframe
  | drawing =>
      simp only [advance]
      split
      · exact .drawingFailed ‹_›
      · exact .drawn ‹_›
  | finished result => exact .stays

/-! ## All accesses -/

/-- The loop after others have written to the keypad and the controls. -/
def overwritten (l : RunLoop) (write : Shared → Shared) : RunLoop :=
  { l with emulator := l.emulator.withShared (write l.emulator.shared) }

/-- The loop after a number of accesses. What others write before an access is given by the number
of the access. -/
def after (others : Nat → Shared → Shared) (l : RunLoop) : Nat → RunLoop
  | 0 => l.overwritten (others 0)
  | k + 1 => ((after others l k).advance s).overwritten (others (k + 1))

/-- No one else writes to the keypad and the controls. -/
def alone : Nat → Shared → Shared := fun _ shared => shared

/-- A cycle of the loop, in which an instruction is run. -/
structure Cycle where
  /-- The emulator as the instruction finds it. -/
  emulator : Emulator
  /-- Whether the machine is paused at the end of the instruction. -/
  paused : Bool

/-- The cycle that begins with an access, if one does, from the loops before and after it. -/
def begun (l next : RunLoop) : List Cycle :=
  match l.point with
  | .instruction => [⟨l.emulator, next.emulator.controls.paused⟩]
  | _ => []

/-- The cycles that begin within a number of accesses, in order. -/
def cycles (others : Nat → Shared → Shared) (l : RunLoop) : Nat → List Cycle
  | 0 => []
  | k + 1 => cycles others l k ++ begun (after s others l k) (after s others l (k + 1))

variable {s}

theorem after_zero (l : RunLoop) : after s alone l 0 = l := rfl

theorem after_succ (l : RunLoop) (k : Nat) :
    after s alone l (k + 1) = (after s alone l k).advance s := rfl

theorem after_advance (l : RunLoop) (k : Nat) :
    after s alone (l.advance s) k = after s alone l (k + 1) := by
  induction k with
  | zero => rfl
  | succ k ih => exact congrArg (advance s) ih

/-- The loop stays at its end. -/
theorem after_eq_of_finished {l : RunLoop} {k later : Nat} {result : Except Fault Nat}
    (h : (after s alone l k).point = .finished result) (hle : k ≤ later) :
    after s alone l later = after s alone l k := by
  induction hle with
  | refl => rfl
  | step _ ih =>
      rw [after_succ, ih]
      simp only [advance, h]

theorem after_of_finished {l : RunLoop} {result : Except Fault Nat}
    (h : l.point = .finished result) (k : Nat) : after s alone l k = l :=
  after_eq_of_finished (k := 0) h (Nat.zero_le k)

/-- A run that ends has come to the end of the loop within its accesses. -/
theorem after_of_runFor {fuel : Nat} {l : RunLoop} {e : Emulator} {result : Except Fault Nat}
    (h : runFor s fuel l = some (e, result)) :
    (after s alone l fuel).emulator = e ∧ (after s alone l fuel).point = .finished result := by
  induction fuel generalizing l with
  | zero => cases h
  | succ fuel ih =>
      cases hpoint : l.point with
      | finished r =>
          simp only [runFor, hpoint, Option.some.injEq, Prod.mk.injEq] at h
          obtain ⟨rfl, rfl⟩ := h
          rw [after_of_finished hpoint]
          exact ⟨rfl, hpoint⟩
      | _ =>
          simp only [runFor, hpoint] at h
          rw [← after_advance]
          exact ih h

/-- A loop that comes to its end ends the run. -/
theorem runFor_of_after {k : Nat} {l : RunLoop} {result : Except Fault Nat}
    (h : (after s alone l k).point = .finished result) :
    runFor s (k + 1) l = some ((after s alone l k).emulator, result) := by
  induction k generalizing l with
  | zero =>
      have hpoint : l.point = .finished result := h
      rw [runFor]
      simp only [hpoint]
      rfl
  | succ k ih =>
      rw [runFor]
      cases hpoint : l.point with
      | finished r =>
          rw [after_of_finished hpoint] at h ⊢
          rw [hpoint] at h
          cases h
          rfl
      | _ =>
          rw [← after_advance] at h ⊢
          exact ih h

end RunLoop

end Chip8
