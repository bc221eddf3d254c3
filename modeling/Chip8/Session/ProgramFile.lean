import Chip8.Fault

/-!
# The file of a program

A program is read from a file. What keeps its bytes from being read is one of a few failures, each
with a number, a kind and a text. A folder can be opened like a file, and only reading it fails.
-/

namespace Chip8

/-- Why the bytes of a file cannot be read. -/
inductive FileFailure where
  /-- There is no file of the name. -/
  | missing
  /-- A part of the name that should be a folder is a file. -/
  | throughFile
  /-- The name is that of a folder. -/
  | folder
  /-- The name is too long. -/
  | nameTooLong
  deriving DecidableEq, Repr

namespace FileFailure

/-- The number of a failure. -/
def code : FileFailure → Nat
  | missing => 2
  | throughFile => 20
  | folder => 21
  | nameTooLong => 36

/-- The kind of a failure. -/
def kind : FileFailure → String
  | missing => "NotFound"
  | throughFile => "NotADirectory"
  | folder => "IsADirectory"
  | nameTooLong => "InvalidFilename"

/-- The text of a failure for the user. -/
def text : FileFailure → String
  | missing => "No such file or directory"
  | throughFile => "Not a directory"
  | folder => "Is a directory"
  | nameTooLong => "File name too long"

/-- The failure with a given number, if it is one of these. -/
def ofCode? (code : Nat) : Option FileFailure :=
  [missing, throughFile, folder, nameTooLong].find? fun f => f.code == code

/-- The form of a failure that names its fields. -/
def record (f : FileFailure) : String :=
  Fault.record "Os" [("code", toString f.code), ("kind", f.kind),
    ("message", Quoted.string f.text)]

/-- The form in which a program that ends on a failure shows it. A failure to read is shown as one
of the source of the program. -/
def debugText (f : FileFailure) : String :=
  match f with
  | folder => "Io(" ++ f.record ++ ")"
  | _ => f.record

end FileFailure

end Chip8
