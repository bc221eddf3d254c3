import Chip8.Log

/-!
# Input events

A key press on a terminal means a key of the keypad, one of three commands, or nothing. The keys of
the keypad lie on the left-hand side of the keyboard, in the same square arrangement.
-/

namespace Chip8

/-- What the user asks for. -/
inductive InputEvent where
  /-- A key of the keypad went down; only the low four bits of its number count. -/
  | key (number : Byte)
  /-- Stop the machine, or let it run again. -/
  | pause
  /-- Run one instruction while the machine is stopped. -/
  | step
  /-- End the program. -/
  | quit
  deriving DecidableEq, Repr

/-- What one wait for input brings: an event, nothing, or a failure with a text. -/
abbrev Reading := Except String (Option InputEvent)

/-- What a pressed key of a keyboard stands for. -/
inductive KeyCode where
  | escape
  | character (c : Char)
  /-- Any key without a character of its own. -/
  | other
  deriving DecidableEq, Repr

/-- A key pressed on a keyboard. -/
structure KeyPress where
  code : KeyCode
  /-- The control key was held. -/
  control : Bool := false
  deriving DecidableEq, Repr

/-- The characters that stand for the keys of the keypad, by key. -/
def keypadCharacters : Table Char :=
  #v['x', '1', '2', '3', 'q', 'w', 'e', 'a', 's', 'd', 'z', 'c', '4', 'r', 'f', 'v']

/-- The key that a character stands for, if it stands for one; the case of a letter does not
matter. -/
def keyOfCharacter? (c : Char) : Option Key :=
  (List.finRange 16).find? fun key => keypadCharacters.entry key == c.toLower

/-- What a key press means, with what there is to report about it. -/
def KeyPress.event (p : KeyPress) : Option InputEvent × List LogLine :=
  match p.code with
  | .escape => (some .quit, [])
  | .other => (none, [])
  | .character c =>
    if c = 'c' ∧ p.control then (some .quit, [])
    else if c = 'p' then (some .pause, [])
    else if c = 'n' then (some .step, [])
    else match keyOfCharacter? c with
      | some key => (some (.key (BitVec.ofNat 8 key.val)), [])
      | none => (none, [.unmapped c])

end Chip8
