import Chip8.Instruction.Text
import Chip8.Keypad
import Chip8.Text.Duration
import Chip8.Text.Quoted

/-!
# Log lines

What the program reports while it runs is kept as data. `LogLine.text` is the wording of a line,
`LogLine.level` its weight and `LogLine.origin` the part of the program that reports it.
-/

namespace Chip8

/-- The weight of a log line. -/
inductive LogLevel where
  | trace
  | debug
  | info
  | warn
  | error
  deriving DecidableEq, Repr

/-- The name of a level. -/
def LogLevel.name : LogLevel → String
  | trace => "TRACE"
  | debug => "DEBUG"
  | info => "INFO"
  | warn => "WARN"
  | error => "ERROR"

/-- Whether lines of a level are shown when nothing else is asked for. -/
def LogLevel.isUrgent : LogLevel → Bool
  | warn | error => true
  | _ => false

/-- The part of the program that reports a log line. -/
inductive LogOrigin where
  | interpreter
  | emulator
  | input
  deriving DecidableEq, Repr

/-- The name under which a part of the program reports. -/
def LogOrigin.name : LogOrigin → String
  | interpreter => "chip8vm::interpreter"
  | emulator => "chip8vm::emulator"
  | input => "chip8vm::input"

/-- A line of the log. -/
inductive LogLine where
  /-- An instruction has been decoded and is about to be carried out. -/
  | executing (address word : Word) (instruction : Instruction)
  /-- A return went back to an address. -/
  | returned (address target : Word)
  /-- A call left the given number of return addresses stacked. -/
  | called (address : Word) (target : Address) (depth : Nat)
  /-- A waiting instruction got a key. -/
  | keyTaken (address : Word) (key : Key)
  /-- The machine is back at power-on. -/
  | machineReset
  /-- A program of the given size has been loaded. -/
  | programLoaded (size : Nat)
  /-- The run loop starts, with the nanoseconds for an instruction and the limit of instructions,
  zero for none. -/
  | running (period limit : Nat)
  /-- The run loop has ended without a fault. -/
  | stopped (count : Nat)
  /-- The sound device failed and is left alone from now on. -/
  | soundDisabled (reason : String)
  /-- The user has stopped the machine. -/
  | paused
  /-- The user has let the machine run again. -/
  | resumed
  /-- The user has typed a character that means nothing. -/
  | unmapped (typed : Char)
  /-- The input has failed. -/
  | inputFailed (reason : String)
  deriving DecidableEq, Repr

namespace LogLine

/-- The weight of a line. -/
def level : LogLine → LogLevel
  | executing .. => .trace
  | returned .. | called .. | keyTaken .. => .debug
  | machineReset | programLoaded _ | running .. | stopped _ | paused | resumed => .info
  | soundDisabled _ | unmapped _ => .warn
  | inputFailed _ => .error

/-- Who reports a line. -/
def origin : LogLine → LogOrigin
  | executing .. | returned .. | called .. | keyTaken .. | machineReset | programLoaded _ =>
    .interpreter
  | running .. | stopped _ | soundDisabled _ => .emulator
  | paused | resumed | unmapped _ | inputFailed _ => .input

/-- An address in a log line: at least three digits. -/
def addressText (a : Word) : String := Hex.padded 3 a.toNat

/-- The wording of a line. -/
def text : LogLine → String
  | executing address word instruction =>
    addressText address ++ ": " ++ Hex.padded 4 word.toNat ++ " " ++ instruction.text
  | returned address target => addressText address ++ ": return to " ++ addressText target
  | called address target depth =>
    addressText address ++ ": call " ++ Hex.padded 3 target.toNat ++ " (depth " ++
      toString depth ++ ")"
  | keyTaken address key =>
    addressText address ++ ": key " ++ Hex.padded 1 key.val ++ " pressed"
  | machineReset => "interpreter reset"
  | programLoaded size => "loaded " ++ toString size ++ " byte program at 0x200"
  | running period limit =>
    "running at " ++ Duration.text period ++ " per instruction" ++
      (if 0 < limit then ", stopping after " ++ toString limit else "")
  | stopped count => "stopped after " ++ toString count ++ " instructions"
  | soundDisabled reason => "sound disabled: " ++ reason
  | paused => "paused"
  | resumed => "resumed"
  | unmapped typed => "can't map " ++ Quoted.char typed ++ " to a COSMAC key"
  | inputFailed reason => "input: " ++ reason

/-- A line with its level in front. -/
def short (line : LogLine) : String := line.level.name ++ " " ++ line.text

/-- A line as it appears among the messages of the program: the level in five places and the origin
in brackets, then the wording. -/
def long (line : LogLine) : String :=
  let level := line.level.name
  "[" ++ level ++ String.ofList (List.replicate (5 - level.length) ' ') ++ " " ++
    line.origin.name ++ "] " ++ line.text

end LogLine

end Chip8
