import Chip8.Config.CommandLine
import Chip8.Input.Keyboard
import Chip8.Machine.Operation
import Chip8.Session.ProgramFile
import Chip8.Session.Threads
import Chip8.Terminal.Display

/-!
# A session at a terminal

A session is a run of the whole program: a machine with a program in it, the run loop and the input
thread, and a terminal that is drawn on and typed on. The session says whose turn is next: the input
thread goes first, but it sleeps while there is no input, for a short while at a time.
-/

namespace Chip8

/-- Why a program does not get as far as its first frame. -/
inductive LaunchFailure where
  | usage (error : UsageError)
  | file (failure : FileFailure)
  | fault (fault : Fault)
  deriving DecidableEq, Repr

namespace LaunchFailure

/-- What a program that fails says last, given the form of the failure that names its fields. -/
def lastWords (debugText : String) : String := "Error: " ++ debugText

/-- What is said about a failure. -/
def message : LaunchFailure → String
  | usage error => error.message
  | file f => lastWords f.debugText
  | fault f => lastWords f.debugText

/-- The exit code of the program. A user who asks for help has not failed. -/
def exitCode : LaunchFailure → Nat
  | usage .displayHelp => 0
  | usage _ => 2
  | _ => 1

end LaunchFailure

/-- A run of the whole program. -/
structure Session where
  config : Config
  threads : Threads
  keyboard : Keyboard
  display : Display
  terminal : Terminal
  now : Instant
  /-- What has been reported, the latest line first. -/
  log : List LogLine

namespace Session

/-- The nanoseconds for which the input thread waits for input at a time. -/
def pollInterval : Nat := 5000000

/-- A machine with a program in it, and what there was to report. -/
def loadedMachine (seed : UInt64) (now : Instant) (program : List Byte) :
    Except Fault (Machine × List LogLine) :=
  let o := (Machine.ofSeed seed now).load (.ofList program)
  o.answer.map fun _ => (o.machine, o.log)

/-- Start a session with the settings of a command line and what has been read from the file of the
program. `spareSeed` is the seed if the command line gives none. -/
def launch (config : Config) (file : Except FileFailure (List Byte)) (spareSeed : UInt64)
    (now : Instant) (terminal : Terminal) : Except LaunchFailure Session :=
  match file with
  | .error failure => .error (.file failure)
  | .ok program =>
    match loadedMachine (config.seed.getD spareSeed) now program with
    | .error fault => .error (.fault fault)
    | .ok (machine, log) =>
      let (display, terminal) := Display.acquire terminal
      .ok
        { config := config
          threads := Threads.start (Emulator.start machine config)
          keyboard := Keyboard.idle.acquire
          display := display
          terminal := terminal
          now := now
          log := log.reverse }

/-- Show or report one thing that the emulator has done. -/
def witness (s : Session) : Happening → Session
  | .frame _ frame =>
    let ((display, terminal), _) := s.display.draw s.terminal frame.screen.cells frame.status
    { s with display := display, terminal := terminal }
  | .buzzer _ => s
  | .log line => { s with log := line :: s.log }

/-- Go on with the given threads: what the emulator has done is shown and reported, in order, and
its journal is empty again. -/
def goOn (s : Session) (t : Threads) : Session :=
  let done := t.loop.emulator.journal.reverse
  let emptied := { t with loop := { t.loop with
    emulator := { t.loop.emulator with journal := [] } } }
  done.foldl witness { s with threads := emptied }

/-- Whether the input thread has something to do. -/
def inputReady (s : Session) : Bool :=
  match s.threads.input.point with
  | .reading since => !s.keyboard.waiting.isEmpty || decide (pollInterval ≤ since.elapsed s.now)
  | .finished => false
  | _ => true

/-- A turn of the input thread, which reads the keyboard if it has been waiting for input. -/
def inputTurn (s : Session) : Session :=
  match s.threads.input.point with
  | .reading _ =>
    let (keyboard, event, log) := s.keyboard.next
    { s with keyboard := keyboard, log := log.reverse ++ s.log }.goOn
      (s.threads.inputTurn s.now (.ok event))
  | _ => s.goOn (s.threads.inputTurn s.now (.ok none))

/-- A turn of the run loop. -/
def loopTurn (s : Session) : Session := s.goOn (s.threads.loopTurn (Surroundings.calm s.now))

/-- How long the run loop sleeps where it stands: for one instruction before it looks whether to
end, and for a while when all that is left is to wait for the input thread. -/
def sleep? (s : Session) : Option Nat :=
  match s.threads.loop.point with
  | .checking => some s.config.cyclePeriod
  | .finished _ => some pollInterval
  | _ => none

/-- The next turn, and how long the run loop sleeps after it, if it is a turn of the run loop. -/
def turn (s : Session) : Session × Option Nat :=
  if s.inputReady then (s.inputTurn, none)
  else
    let s := s.loopTurn
    (s, s.sleep?)

/-- Bytes arrive from the terminal. -/
def typed (s : Session) (bytes : List Byte) : Session :=
  { s with keyboard := s.keyboard.feed bytes }

/-- What has been reported to the user, in order: everything if he has asked for it, else only what
is urgent. -/
def messages (s : Session) : List String :=
  (s.log.reverse.filter fun line => s.config.trace || line.level.isUrgent).map LogLine.long

end Session

/-- How a program ends. -/
structure Ending where
  exitCode : Nat
  messages : List String
  terminal : Terminal

/-- How a program ends that has not come to its first frame. -/
def LaunchFailure.ending (f : LaunchFailure) (terminal : Terminal) : Ending :=
  ⟨f.exitCode, [f.message], terminal⟩

/-- How a session ends whose run loop has come to the given result. -/
def Session.ending (s : Session) : Except Fault Nat → Ending
  | .ok _ => ⟨0, s.messages, Display.release s.terminal⟩
  | .error fault =>
    ⟨1, s.messages ++ [LaunchFailure.lastWords fault.debugText], Display.release s.terminal⟩

end Chip8
