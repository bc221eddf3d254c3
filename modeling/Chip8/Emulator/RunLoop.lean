import Chip8.Emulator.Basic

/-!
# The run loop

The loop shows a first frame and then runs one instruction after the other, until it is told to end,
the limit of instructions is reached, or something fails. Before every instruction it looks at the
flags in a fixed order. `advance` goes on by one access to what others may write; `run` goes on to
the end with no other writer.
-/

namespace Chip8

/-- The places of the loop between which others may write to the keypad and the controls. -/
inductive LoopPoint where
  /-- The first frame is to be shown. -/
  | opening
  /-- About to look whether to end. -/
  | checking
  /-- About to look whether the machine is paused. -/
  | gate
  /-- The machine is paused; about to take a single step that has been asked for. -/
  | stepRequest
  /-- About to run an instruction. -/
  | instruction
  /-- An instruction has gone well; about to look whether a frame is due. -/
  | looking (status : Status)
  /-- A frame is due. -/
  | drawing
  /-- At the end, with the number of instructions or with what has failed. -/
  | finished (result : Except Fault Nat)

/-- The loop: the emulator it drives, the instructions that have gone well, and where it stands. -/
structure RunLoop where
  emulator : Emulator
  executed : Nat
  point : LoopPoint

namespace RunLoop

/-- The loop before its first frame. -/
def start (e : Emulator) : RunLoop :=
  ⟨e.note (.log (.running e.period e.limit)), 0, .opening⟩

/-- Whether the limit of instructions has been reached. -/
def limitReached (l : RunLoop) : Bool := 0 < l.emulator.limit && l.emulator.limit <= l.executed

/-- The sound stops, and the loop is at its end. -/
def finish (s : Surroundings) (l : RunLoop) (result : Except Fault Nat) : RunLoop :=
  let e := l.emulator.syncSound s false
  let e := match result with
    | .ok count => e.note (.log (.stopped count))
    | .error _ => e
  { l with emulator := e, point := .finished result }

/-- An instruction has gone well and all who had to hear of it have heard. -/
def completed (l : RunLoop) : RunLoop := { l with executed := l.executed + 1, point := .checking }

/-- The next access of the loop. -/
def advance (s : Surroundings) (l : RunLoop) : RunLoop :=
  match l.point with
  | .opening =>
    match l.emulator.present s with
    | (e, .error fault) => { l with emulator := e, point := .finished (.error fault) }
    | (e, .ok ()) => { l with emulator := e, point := .checking }
  | .checking =>
    if l.emulator.controls.quit || l.limitReached then l.finish s (.ok l.executed)
    else { l with point := .gate }
  | .gate =>
    { l with point := if l.emulator.controls.paused then .stepRequest else .instruction }
  | .stepRequest =>
    let (granted, controls) := l.emulator.controls.takeStep
    { l with
      emulator := { l.emulator with controls := controls }
      point := if granted then .instruction else .checking }
  | .instruction =>
    match l.emulator.instruct s with
    | (e, .error fault) => { l with emulator := e }.finish s (.error fault)
    | (e, .ok status) => { l with emulator := e, point := .looking status }
  | .looking status =>
    if l.emulator.needsFrame status then { l with point := .drawing } else l.completed
  | .drawing =>
    match l.emulator.present s with
    | (e, .error fault) => { l with emulator := e }.finish s (.error fault)
    | (e, .ok ()) => { l with emulator := e }.completed
  | .finished _ => l

/-- Go on for at most `fuel` accesses; nothing if the loop has not come to its end by then. -/
def runFor (s : Surroundings) : (fuel : Nat) → RunLoop → Option (Emulator × Except Fault Nat)
  | 0, _ => none
  | fuel + 1, l =>
    match l.point with
    | .finished result => some (l.emulator, result)
    | _ => runFor s fuel (l.advance s)

end RunLoop

/-- Run an emulator until the loop ends, if it does so within the given number of accesses. -/
def Emulator.run (s : Surroundings) (fuel : Nat) (e : Emulator) :
    Option (Emulator × Except Fault Nat) :=
  RunLoop.runFor s fuel (RunLoop.start e)

end Chip8
