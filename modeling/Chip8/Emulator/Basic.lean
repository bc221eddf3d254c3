import Chip8.Machine.Step
import Chip8.Input.Controls
import Chip8.Config.Basic
import Chip8.Emulator.Buzzer
import Chip8.Emulator.StatusLine

/-!
# The emulator

The emulator drives a machine and hands its results to a screen and a sound device. What these do
from outside, and what time it is, is given by the `Surroundings`: for every frame what happens
while it is drawn, for every call of the sound device whether it fails, and a clock reading for
every instruction. What the emulator has done to them is kept in a journal.
-/

namespace Chip8

/-- A picture handed to the screen, with the lines below it. -/
structure Frame where
  screen : Framebuffer
  status : String
  deriving DecidableEq

/-- Something that happens while a frame is being drawn. -/
inductive Disturbance where
  | quit (value : Bool)
  | paused (value : Bool)
  | stepOnce (value : Bool)
  | key (key : Key) (down : Bool)
  /-- The drawing fails, and nothing more happens. -/
  | failure (reason : String)
  deriving DecidableEq, Repr

/-- How the devices and the clock behave. Frames, starts and stops are counted from one,
instructions from zero. -/
structure Surroundings where
  screen : (frame : Nat) → List Disturbance
  buzzer : BuzzerCall → (number : Nat) → Option String
  clock : (instruction : Nat) → Instant

/-- Surroundings in which nothing happens and nothing fails, at the given time. -/
def Surroundings.calm (now : Instant) : Surroundings where
  screen _ := []
  buzzer _ _ := none
  clock _ := now

/-- Something the emulator has done. -/
inductive Happening where
  /-- A frame has been handed to the screen. -/
  | frame (number : Nat) (frame : Frame)
  /-- The sound device has been called. -/
  | buzzer (call : BuzzerCall)
  /-- A line has been written to the log. -/
  | log (line : LogLine)
  deriving DecidableEq

/-- A machine with what drives it. The journal has the latest entry first. -/
structure Emulator where
  machine : Machine
  controls : Controls
  period : Nat
  limit : Nat
  buzzer : Buzzer
  soundFailed : Bool
  frames : Nat
  instructions : Nat
  journal : List Happening

namespace Emulator

/-- An emulator for a machine, as the settings ask for, that has not done anything. -/
def start (machine : Machine) (config : Config) : Emulator where
  machine := machine
  controls := Controls.start config.paused
  period := config.cyclePeriod
  limit := config.cycles.toNat
  buzzer := Buzzer.silent
  soundFailed := false
  frames := 0
  instructions := 0
  journal := []

/-- What the input may write: the keypad and the controls. -/
def shared (e : Emulator) : Shared := ⟨e.machine.keys, e.controls⟩

/-- The emulator after the input has written to the keypad or the controls. -/
def withShared (e : Emulator) (s : Shared) : Emulator :=
  { e with machine := { e.machine with keys := s.keys }, controls := s.controls }

/-- Add an entry to the journal. -/
def note (e : Emulator) (h : Happening) : Emulator := { e with journal := h :: e.journal }

/-- Add lines to the journal, in order. -/
def noteLog (e : Emulator) (lines : List LogLine) : Emulator :=
  lines.foldl (fun e line => e.note (.log line)) e

/-- The frame that shows the machine as it is. -/
def frame (e : Emulator) : Frame := ⟨e.machine.screen, e.machine.statusLine⟩

/-- Let things happen while a frame is drawn, up to a failure. -/
def disturb (e : Emulator) : List Disturbance → Emulator × Except Fault Unit
  | [] => (e, .ok ())
  | .quit value :: rest => { e with controls := { e.controls with quit := value } }.disturb rest
  | .paused value :: rest =>
    { e with controls := { e.controls with paused := value } }.disturb rest
  | .stepOnce value :: rest =>
    { e with controls := { e.controls with stepOnce := value } }.disturb rest
  | .key key down :: rest =>
    { e with machine := { e.machine with keys := e.machine.keys.set key down } }.disturb rest
  | .failure reason :: _ => (e, .error (.io reason))

/-- Hand the current frame to the screen. -/
def present (s : Surroundings) (e : Emulator) : Emulator × Except Fault Unit :=
  let number := e.frames + 1
  ({ e with frames := number }.note (.frame number e.frame)).disturb (s.screen number)

/-- Make the sound device sound or be silent. After its first failure it is left alone. -/
def syncSound (s : Surroundings) (active : Bool) (e : Emulator) : Emulator :=
  if e.soundFailed then e
  else match e.buzzer.needed active with
    | none => e
    | some call =>
      let failure := s.buzzer call (e.buzzer.nextNumber call)
      let e := { e with buzzer := e.buzzer.call call failure.isNone }.note (.buzzer call)
      match failure with
      | none => e
      | some reason => { e with soundFailed := true }.note (.log (.soundDisabled reason))

/-- Run one instruction and let the sound device follow the sound timer. -/
def instruct (s : Surroundings) (e : Emulator) : Emulator × Except Fault Status :=
  let o := e.machine.step (s.clock e.instructions)
  let e := { e with machine := o.machine, instructions := e.instructions + 1 }.noteLog o.log
  match o.answer with
  | .error fault => (e, .error fault)
  | .ok status => (e.syncSound s status.sound, .ok status)

/-- Whether a frame is due after an instruction: the screen has changed, or the user is watching
every instruction. -/
def needsFrame (e : Emulator) (status : Status) : Bool := status.redraw || e.controls.paused

/-- One instruction, and then whatever the devices have to hear about. -/
def cycle (s : Surroundings) (e : Emulator) : Emulator × Except Fault Status :=
  match e.instruct s with
  | (e, .error fault) => (e, .error fault)
  | (e, .ok status) =>
    if e.needsFrame status then
      match e.present s with
      | (e, .error fault) => (e, .error fault)
      | (e, .ok ()) => (e, .ok status)
    else (e, .ok status)

end Emulator

end Chip8
