import Chip8.Input.Event

/-!
# From the bytes of a terminal to key presses

A terminal sends a character as its UTF-8 bytes, a control key with a letter as a small byte, and
any other key as a sequence that starts with the escape byte. Bytes are collected until they form
an event, or until it is certain that they never will, in which case they are dropped. The escape
byte alone is the escape key only if nothing follows it in the same piece of input.

An escape byte before a key means that the alternate key was held, which makes no difference.
-/

namespace Chip8

/-- What a terminal reports. -/
inductive TerminalEvent where
  | key (press : KeyPress)
  /-- Something else than a key, such as a click of the mouse. -/
  | other
  deriving DecidableEq, Repr

/-- What the bytes collected so far amount to. -/
inductive Scan where
  | event (e : TerminalEvent)
  | incomplete
  | rejected
  deriving DecidableEq, Repr

namespace Keyboard

/-- The escape byte. -/
def escapeByte : Byte := 0x1B

/-- The event of a key that has no character. -/
def otherKey : Scan := .event (.key ⟨.other, false⟩)

/-- The event of a character, typed with or without the control key. -/
def character (c : Char) (control : Bool) : Scan := .event (.key ⟨.character c, control⟩)

/-- How many bytes a character has whose first byte is given. -/
def characterLength? (first : Nat) : Option Nat :=
  if first < 0x80 then some 1
  else if first < 0xC0 then none
  else if first < 0xE0 then some 2
  else if first < 0xF0 then some 3
  else if first < 0xF8 then some 4
  else none

/-- The number of a character from the value bits of its first byte and the bytes that follow. -/
def codePoint (leading : Nat) (following : List Byte) : Nat :=
  following.foldl (fun acc b => acc * 64 + b.toNat % 64) leading

/-- The smallest number that needs a character of the given length. -/
def smallestCodePoint : (length : Nat) → Nat
  | 2 => 0x80
  | 3 => 0x800
  | 4 => 0x10000
  | _ => 0

/-- One more than the largest number that the value bits of the first byte can hold, for a
character of the given length. -/
def leadLimit : (length : Nat) → Nat
  | 1 => 0x80
  | 2 => 0x20
  | 3 => 0x10
  | _ => 0x08

/-- Bytes that start with a character. -/
def scanCharacter (first : Byte) (following : List Byte) : Scan :=
  match characterLength? first.toNat with
  | none => .rejected
  | some length =>
    if following.any fun b => b.toNat / 64 != 2 then .rejected
    else if following.length + 1 < length then .incomplete
    else if length < following.length + 1 then .rejected
    else
      let number := codePoint (first.toNat % leadLimit length) following
      if smallestCodePoint length ≤ number ∧ number.isValidChar then
        character (Char.ofNat number) false
      else .rejected

/-- Bytes that start with neither the escape byte nor anything but one key. -/
def scanKey (first : Byte) (following : List Byte) : Scan :=
  let code := first.toNat
  if code = 0x0D ∨ code = 0x09 ∨ code = 0x7F then otherKey
  else if code = 0 then character ' ' true
  else if code ≤ 0x1A then character (Char.ofNat (code + 0x60)) true
  else if 0x1C ≤ code ∧ code ≤ 0x1F then character (Char.ofNat (code + 0x18)) true
  else scanCharacter first following

/-- The number that decimal digits stand for, with an optional plus sign, if it is at most the
limit. -/
def number? (limit : Nat) (text : List Byte) : Option Nat :=
  let digits := if text.head? = some 0x2B then text.tail else text
  if digits.isEmpty ∨ digits.any (fun b => b.toNat < 0x30 ∨ 0x39 < b.toNat) then none
  else
    let value := digits.foldl (fun acc b => acc * 10 + (b.toNat - 0x30)) 0
    if value ≤ limit then some value else none

/-- Whether bytes are a text, one whole character after the other; `begun` holds the bytes of a
character that is not complete yet. -/
def isText (begun : List Byte) : List Byte → Bool
  | [] => begun.isEmpty
  | b :: rest =>
    let character := begun ++ [b]
    match scanCharacter (character.headD b) character.tail with
    | .event _ => isText [] rest
    | .incomplete => isText character rest
    | .rejected => false

/-- The parts between semicolons, if the bytes are a text. -/
def parameters (bytes : List Byte) : List (List Byte) :=
  if isText [] bytes then bytes.splitOn 0x3B else []

/-- Whether a number names a button, a wheel or a movement of the mouse. -/
def isMouseAction (code : Nat) : Bool := code % 4 + code / 64 * 4 <= 5

/-- The parameters of a report of the mouse: the action and a position. -/
def scanMouse (offset : Nat) (text : List Byte) : Scan :=
  match parameters text with
  | action :: column :: row :: _ =>
    match number? 255 action, number? 65535 column, number? 65535 row with
    | some action, some _, some _ =>
      if offset ≤ action ∧ isMouseAction (action - offset) then .event .other else .rejected
    | _, _, _ => .rejected
  | _ => .rejected

/-- Whether a number before a tilde names a key. -/
def isNumberedKey (n : Nat) : Bool :=
  (1 <= n && n <= 8) || (11 <= n && n <= 15) || (17 <= n && n <= 21) || (23 <= n && n <= 26) ||
    n == 28 || n == 29 || (31 <= n && n <= 34)

/-- A sequence with parameters that ends in the given letter. -/
def scanNumbered (parametersText : List Byte) (last : Char) : Scan :=
  if last = 'M' then scanMouse 32 parametersText
  else if last = '~' then
    match (parameters parametersText).head?.bind (number? 255) with
    | some n => if isNumberedKey n then otherKey else .rejected
    | none => .rejected
  else if last ∈ ['A', 'B', 'C', 'D', 'F', 'H', 'P', 'Q', 'S'] then otherKey
  else .rejected

/-- The bytes after the escape byte and a bracket. -/
def scanSequence (bytes : List Byte) : Scan :=
  match bytes.map fun b => Char.ofNat b.toNat with
  | [] => .incomplete
  | '[' :: rest =>
    match rest with
    | [] => .incomplete
    | c :: _ => if c ∈ ['A', 'B', 'C', 'D', 'E'] then otherKey else .rejected
  | '<' :: rest =>
    match rest.getLast? with
    | some c => if c = 'M' ∨ c = 'm' then scanMouse 0 (bytes.drop 1).dropLast else .incomplete
    | none => .incomplete
  | 'M' :: rest =>
    if rest.length < 3 then .incomplete
    else
      let action := ((bytes.drop 1).head?.elim 0 BitVec.toNat)
      if 32 ≤ action ∧ isMouseAction (action - 32) then .event .other else .rejected
  | c :: rest =>
    if c ∈ ['A', 'B', 'C', 'D', 'F', 'H', 'Z'] then otherKey
    else if c.isDigit then
      match rest.getLast? with
      | some last =>
        if 64 ≤ last.toNat ∧ last.toNat ≤ 126 then scanNumbered bytes.dropLast last
        else .incomplete
      | none => .incomplete
    else .rejected

/-- The bytes after the escape byte and the letter O. -/
def scanFunctionKey : List Byte → Scan
  | [] => .incomplete
  | b :: _ => if 0x50 ≤ b.toNat ∧ b.toNat ≤ 0x53 then otherKey else .rejected

/-- What collected bytes amount to; `more` tells whether further bytes of the same piece follow. -/
def scan (bytes : List Byte) (more : Bool) : Scan :=
  match bytes with
  | [] => .incomplete
  | first :: rest =>
    if first = escapeByte then
      match rest with
      | [] => if more then .incomplete else .event (.key ⟨.escape, false⟩)
      | second :: rest =>
        if second = 0x4F then scanFunctionKey rest
        else if second = 0x5B then scanSequence rest
        else if second = escapeByte then .event (.key ⟨.escape, false⟩)
        else scanKey second rest
    else scanKey first rest

/-- Collect the bytes of one piece of input: the events they complete, and what is left over. -/
def collect (buffer : List Byte) : List Byte → List TerminalEvent × List Byte
  | [] => ([], buffer)
  | b :: rest =>
    match scan (buffer ++ [b]) !rest.isEmpty with
    | .event e =>
      let (events, left) := collect [] rest
      (e :: events, left)
    | .incomplete => collect (buffer ++ [b]) rest
    | .rejected => collect [] rest

end Keyboard

/-- The keyboard of a terminal: whether it is read key by key, the bytes of an unfinished sequence,
and the events that have not been asked for yet. -/
structure Keyboard where
  raw : Bool
  buffer : List Byte
  waiting : List TerminalEvent
  deriving DecidableEq, Repr

namespace Keyboard

/-- A keyboard that is still read line by line. -/
def idle : Keyboard := ⟨false, [], []⟩

/-- Start to read key by key. -/
def acquire (k : Keyboard) : Keyboard := { k with raw := true }

/-- Leave the keyboard as it was found. -/
def release (k : Keyboard) : Keyboard := { k with raw := false }

/-- A piece of input arrives. -/
def feed (k : Keyboard) (piece : List Byte) : Keyboard :=
  let (events, buffer) := collect k.buffer piece
  { k with buffer := buffer, waiting := k.waiting ++ events }

/-- What a terminal event means. -/
def meaning : TerminalEvent → Option InputEvent × List LogLine
  | .key press => press.event
  | .other => (none, [])

/-- Ask for the next event: its meaning, or nothing if none is waiting. -/
def next (k : Keyboard) : Keyboard × Option InputEvent × List LogLine :=
  match k.waiting with
  | [] => (k, none, [])
  | e :: rest => ({ k with waiting := rest }, meaning e)

end Keyboard

end Chip8
