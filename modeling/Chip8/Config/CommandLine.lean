import Chip8.Config.Basic

/-!
# The command line

A command line is read word by word. Options are spelled out in full, with their value in the next
word or after an equals sign; one further word names the program. After a bare double dash every
word is a name.

A value in a word of its own, like the name of the program, is examined when the word after it has
been recognised, or at the end of the line. So a word that is not recognised is reported before a
bad value in front of it.
-/

namespace Chip8

/-- What is wrong with a command line, or that it asks for help. -/
inductive UsageError where
  /-- The user asks for help. -/
  | displayHelp
  /-- A word is no option, and no name of a program is expected. -/
  | unknownArgument
  /-- A value is missing, or the name of the program is empty. -/
  | invalidValue
  /-- A value for an option that takes none. -/
  | tooManyValues
  /-- An option is there twice. -/
  | argumentConflict
  /-- A value is no number, or out of range. -/
  | valueValidation
  /-- There is no name of a program. -/
  | missingRequiredArgument
  deriving DecidableEq, Repr

/-- What the user is told about the command line. -/
def UsageError.message : UsageError → String
  | displayHelp =>
    "Usage: chip8vm [--clock-hz HZ] [--mute] [--paused] [--seed SEED] [--cycles N] [--trace] ROM"
  | unknownArgument => "error: unexpected argument"
  | invalidValue => "error: a value is missing"
  | tooManyValues => "error: an option without a value has been given one"
  | argumentConflict => "error: an option has been given twice"
  | valueValidation => "error: a value is no number or out of range"
  | missingRequiredArgument => "error: the name of a program is missing"

/-- The options with a value. -/
inductive Setting where
  | clockHz
  | seed
  | cycles
  deriving DecidableEq, Repr

/-- The options without a value. -/
inductive Switch where
  | mute
  | paused
  | trace
  deriving DecidableEq, Repr

/-- What the name of an option stands for. -/
inductive OptionName where
  | setting (s : Setting)
  | switch (s : Switch)
  | help
  deriving DecidableEq, Repr

namespace CommandLine

/-- The option of a name. -/
def option? (name : String) : Option OptionName :=
  match name with
  | "clock-hz" => some (.setting .clockHz)
  | "seed" => some (.setting .seed)
  | "cycles" => some (.setting .cycles)
  | "mute" => some (.switch .mute)
  | "paused" => some (.switch .paused)
  | "trace" => some (.switch .trace)
  | "help" => some .help
  | _ => none

/-- The forms of a word. -/
inductive Form where
  /-- The bare double dash. -/
  | separator
  /-- A name after a double dash, and what follows an equals sign. -/
  | long (name : String) (value : Option String)
  /-- A single dash with the character after it. -/
  | short (c : Char)
  /-- Any other word, the bare dash included. -/
  | plain
  deriving DecidableEq, Repr

/-- The name of a long option and what follows the first equals sign. -/
def splitName (s : List Char) : String × Option String :=
  let name := String.ofList (s.takeWhile (· != '='))
  match s.dropWhile (· != '=') with
  | [] => (name, none)
  | _ :: value => (name, some (String.ofList value))

/-- The form of a word. -/
def form (word : String) : Form :=
  match word.toList with
  | ['-', '-'] => .separator
  | '-' :: '-' :: rest =>
    let (name, value) := splitName rest
    .long name value
  | '-' :: c :: _ => .short c
  | _ => .plain

/-- The number that decimal digits stand for, with an optional plus sign, if it is at most the
limit. -/
def number? (limit : Nat) (text : String) : Option Nat :=
  let digits := match text.toList with
    | '+' :: rest => rest
    | all => all
  if digits.isEmpty ∨ digits.any (fun c => !c.isDigit) then none
  else
    let value := digits.foldl (fun acc c => acc * 10 + (c.toNat - 48)) 0
    if value ≤ limit then some value else none

/-- The word before the one that is being read, where it has not been examined yet. -/
inductive Unexamined where
  /-- An option that waits for its value, or has it. -/
  | setting (s : Setting) (text : Option String)
  /-- A name of a program. -/
  | name (word : String)
  deriving DecidableEq, Repr

/-- What has been read of a command line. -/
structure Draft where
  rom : Option String
  clockHz : Option UInt32
  seed : Option UInt64
  cycles : Option UInt64
  switches : List Switch
  unexamined : Option Unexamined
  /-- Every further word is a name. -/
  namesOnly : Bool

namespace Draft

/-- Nothing has been read. -/
def start : Draft := ⟨none, none, none, none, [], none, false⟩

/-- Whether an option has its value already. -/
def isSet (d : Draft) : Setting → Bool
  | .clockHz => d.clockHz.isSome
  | .seed => d.seed.isSome
  | .cycles => d.cycles.isSome

/-- Give an option its value. -/
def assign (d : Draft) (s : Setting) (text : String) : Except UsageError Draft :=
  if d.isSet s then .error .argumentConflict
  else match s with
    | .clockHz =>
      match number? (UInt32.size - 1) text with
      | some (n + 1) => .ok { d with clockHz := some (.ofNat (n + 1)) }
      | _ => .error .valueValidation
    | .seed =>
      match number? (UInt64.size - 1) text with
      | some n => .ok { d with seed := some (.ofNat n) }
      | none => .error .valueValidation
    | .cycles =>
      match number? (UInt64.size - 1) text with
      | some n => .ok { d with cycles := some (.ofNat n) }
      | none => .error .valueValidation

/-- Turn a switch on. -/
def turnOn (d : Draft) (s : Switch) : Except UsageError Draft :=
  if s ∈ d.switches then .error .argumentConflict else .ok { d with switches := s :: d.switches }

/-- Examine the word that has not been examined yet. -/
def settle (d : Draft) : Except UsageError Draft :=
  match d.unexamined with
  | none => .ok d
  | some (.setting _ none) => .error .invalidValue
  | some (.setting s (some text)) => { d with unexamined := none }.assign s text
  | some (.name "") => .error .invalidValue
  | some (.name word) => .ok { d with rom := some word, unexamined := none }

/-- Whether a name of a program has been read. -/
def hasName (d : Draft) : Bool :=
  match d.unexamined with
  | some (.name _) => true
  | _ => d.rom.isSome

/-- Read a name of a program. -/
def name (d : Draft) (word : String) : Except UsageError Draft :=
  if d.hasName then .error .unknownArgument
  else do
    let d ← d.settle
    .ok { d with unexamined := some (.name word) }

/-- Read an option, with what follows an equals sign. -/
def option (d : Draft) : OptionName → Option String → Except UsageError Draft
  | .setting s, some text => do
    let d ← d.settle
    d.assign s text
  | .setting s, none => do
    let d ← d.settle
    .ok { d with unexamined := some (.setting s none) }
  | .switch _, some _ => .error .tooManyValues
  | .switch s, none => do
    let d ← d.settle
    d.turnOn s
  | .help, some _ => .error .tooManyValues
  | .help, none => do
    let _ ← d.settle
    .error .displayHelp

/-- Read one word. -/
def word (d : Draft) (word : String) : Except UsageError Draft :=
  if d.namesOnly then d.name word
  else match form word with
    | .separator => .ok { d with namesOnly := true }
    | .long name value =>
      match option? name with
      | some o => d.option o value
      | none => .error .unknownArgument
    | .short c => if c = 'h' then d.option .help none else .error .unknownArgument
    | .plain =>
      match d.unexamined with
      | some (.setting s none) => .ok { d with unexamined := some (.setting s (some word)) }
      | _ => d.name word

/-- The settings after the last word. -/
def finish (d : Draft) : Except UsageError Config := do
  let d ← d.settle
  match d.rom with
  | none => .error .missingRequiredArgument
  | some rom =>
    .ok
      { rom := rom
        clockHz := d.clockHz.getD Config.defaultClockHz
        mute := .mute ∈ d.switches
        paused := .paused ∈ d.switches
        seed := d.seed
        cycles := d.cycles.getD 0
        trace := .trace ∈ d.switches }

end Draft

end CommandLine

/-- The settings that the words of a command line ask for. -/
def Config.parse (words : List String) : Except UsageError Config := do
  let d ← words.foldlM CommandLine.Draft.word CommandLine.Draft.start
  d.finish

end Chip8
