import Chip8.Emulator.RunLoop
import Chip8.Input.Thread

/-!
# The run loop beside the input thread

The run loop and the input thread take turns in any order, one access to a key or a flag at a time.
Once the loop has come to its end the program is to end, and its next turn says so to the input
thread. The list of turns is the schedule.
-/

namespace Chip8

/-- The run loop and the input thread. The keypad and the controls are those of the emulator. -/
structure Threads where
  loop : RunLoop
  input : InputThread

/-- Whose turn it is, with what the outside world has to say at that moment. -/
inductive Turn where
  | loop (surroundings : Surroundings)
  | input (now : Instant) (reading : Reading)

namespace Threads

/-- Both threads before their first access. -/
def start (e : Emulator) : Threads := ⟨RunLoop.start e, InputThread.start⟩

/-- What the threads share. -/
def shared (t : Threads) : Shared := t.loop.emulator.shared

/-- A turn of the run loop; after its end the program is to end. -/
def loopTurn (t : Threads) (s : Surroundings) : Threads :=
  match t.loop.point with
  | .finished _ =>
    let e := t.loop.emulator
    { t with loop := { t.loop with
      emulator := { e with controls := { e.controls with quit := true } } } }
  | _ => { t with loop := t.loop.advance s }

/-- A turn of the input thread. -/
def inputTurn (t : Threads) (now : Instant) (reading : Reading) : Threads :=
  let (input, shared, log) := t.input.advance now reading t.shared
  ⟨{ t.loop with emulator := (t.loop.emulator.withShared shared).noteLog log }, input⟩

/-- One turn. -/
def take (t : Threads) : Turn → Threads
  | .loop surroundings => t.loopTurn surroundings
  | .input now reading => t.inputTurn now reading

/-- The threads after a schedule. -/
def afterAll (t : Threads) (schedule : List Turn) : Threads := schedule.foldl take t

/-- What the run loop has come to, once both threads are at their ends. -/
def result? (t : Threads) : Option (Except Fault Nat) :=
  match t.loop.point, t.input.point with
  | .finished result, .finished => some result
  | _, _ => none

end Threads

end Chip8
