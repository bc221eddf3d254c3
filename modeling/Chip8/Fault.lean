import Chip8.Word
import Chip8.Text.Hex
import Chip8.Text.Quoted

/-!
# Faults

Everything that stops the emulation of a program is one value: what went wrong and where. `message`
is the text for the user and `debugText` the form in which a program that ends on the fault shows
it.
-/

namespace Chip8

/-- What stops the emulation of a program. -/
inductive Fault where
  /-- The word at an address is no instruction. -/
  | unknownOpcode (opcode address : Word)
  /-- A call at an address found the call stack full. -/
  | stackOverflow (address : Word)
  /-- A return at an address found the call stack empty. -/
  | stackUnderflow (address : Word)
  /-- The program counter has no complete instruction before it. -/
  | programRunaway (pc : Word)
  /-- A program is larger than the room for it. -/
  | programTooLarge (size limit : Nat)
  /-- A glyph table is larger than the room for it. -/
  | fontTooLarge (size written : Nat)
  /-- A source of bytes, a screen or an input failed with a text of its own. -/
  | io (message : String)
  deriving DecidableEq, Repr

namespace Fault

/-- An address in a message: `0x` and at least three digits. -/
def addressText (a : Word) : String := "0x" ++ Hex.padded 3 a.toNat

/-- An instruction word in a message: `0x` and four digits. -/
def opcodeText (w : Word) : String := "0x" ++ Hex.padded 4 w.toNat

/-- The text of a fault for the user. -/
def message : Fault → String
  | unknownOpcode opcode address =>
    "unknown opcode " ++ opcodeText opcode ++ " at " ++ addressText address
  | stackOverflow address =>
    "stack overflow: CALL at " ++ addressText address ++
      " with 16 return addresses already stacked"
  | stackUnderflow address =>
    "stack underflow: RET at " ++ addressText address ++ " with an empty call stack"
  | programRunaway pc => "program runaway: no complete instruction at " ++ addressText pc
  | programTooLarge size limit =>
    "program is too large (" ++ toString size ++ " bytes), max size is " ++ toString limit ++
      " bytes"
  | fontTooLarge size written =>
    "font set is too large (" ++ toString size ++ " bytes), only " ++ toString written ++
      " bytes fit"
  | io message => message

/-- A name with named fields between braces. -/
def record (name : String) (fields : List (String × String)) : String :=
  name ++ " \x7b " ++ String.intercalate ", " (fields.map fun (k, v) => k ++ ": " ++ v) ++ " \x7d"

/-- The form of a fault that names its fields, numbers in decimal. -/
def debugText : Fault → String
  | unknownOpcode opcode address =>
    record "UnknownOpcode"
      [("opcode", toString opcode.toNat), ("address", toString address.toNat)]
  | stackOverflow address => record "StackOverflow" [("address", toString address.toNat)]
  | stackUnderflow address => record "StackUnderflow" [("address", toString address.toNat)]
  | programRunaway pc => record "ProgramRunaway" [("pc", toString pc.toNat)]
  | programTooLarge size limit =>
    record "ProgramTooLarge" [("size", toString size), ("max_size", toString limit)]
  | fontTooLarge size written =>
    record "FontTooLarge" [("size", toString size), ("written", toString written)]
  | io message =>
    "Io(" ++ record "Custom" [("kind", "Other"), ("error", Quoted.string message)] ++ ")"

end Fault

end Chip8
