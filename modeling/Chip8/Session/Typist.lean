import Chip8.Session.Basic

/-!
# A session with a typist

The typist follows a script: he waits until a text is on the screen, types some bytes, and goes on
to the next entry. Time passes only where the run loop sleeps, at least a little for every
instruction.
-/

namespace Chip8

/-- An entry of the typist's script: what to wait for and what to type. -/
structure Typing where
  awaited : String
  bytes : List Byte
  deriving DecidableEq, Repr

/-- A session with a typist: the entries of the script that are left, and the number of frames at
which the typist has last looked at the screen in vain. -/
structure Rehearsal where
  session : Session
  script : List Typing
  seen : Option Nat

namespace Rehearsal

/-- Whether a text occurs in another one. -/
def occurs (part : List Char) : List Char → Bool
  | [] => part.isEmpty
  | c :: rest => part.isPrefixOf (c :: rest) || occurs part rest

/-- Whether a text is on the screen, within a row. -/
def isShown (t : Terminal) (text : String) : Bool :=
  text.isEmpty || t.shown.any fun row => occurs text.toList (row.toList.map Cell.glyph)

/-- The least time that an instruction takes, in nanoseconds. -/
def leastPeriod : Nat := 1000

/-- The typist looks at the screen, if it has changed, and types if he sees what he waits for. -/
def look (r : Rehearsal) : Rehearsal :=
  match r.script with
  | [] => r
  | typing :: rest =>
    let frames := r.session.threads.loop.emulator.frames
    if r.seen = some frames then r
    else if frames ≠ 0 ∧ isShown r.session.terminal typing.awaited then
      ⟨r.session.typed typing.bytes, rest, none⟩
    else { r with seen := some frames }

/-- One turn of the session. Time passes where the run loop sleeps. -/
def turn (r : Rehearsal) : Rehearsal :=
  match r.session.turn with
  | (s, some period) => { r with session := { s with now := s.now + max leastPeriod period } }
  | (s, none) => { r with session := s }

/-- Go on to the end of the session, for at most the given number of turns. -/
def run : (fuel : Nat) → Rehearsal → Option Ending
  | 0, _ => none
  | fuel + 1, r =>
    match r.session.threads.result? with
    | some result => some (r.session.ending result)
    | none => run fuel r.look.turn

end Rehearsal

/-- What a program comes to that is called with the given words, on an empty terminal, with the
typist following a script. `file` tells what is read from the file of a name. -/
def rehearse (fuel : Nat) (words : List String)
    (file : (name : String) → Except FileFailure (List Byte)) (terminal : Terminal)
    (script : List Typing) : Option Ending :=
  match Config.parse words with
  | .error e => some ((LaunchFailure.usage e).ending terminal)
  | .ok config =>
    match Session.launch config (file config.rom) 0 0 terminal with
    | .error failure => some (failure.ending terminal)
    | .ok session => Rehearsal.run fuel ⟨session, script, none⟩

end Chip8
