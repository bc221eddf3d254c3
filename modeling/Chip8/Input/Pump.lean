import Chip8.Input.Controls
import Chip8.Input.Event
import Chip8.Timers

/-!
# Moving input to the keypad and the controls

A terminal tells when a key goes down, and again while it is held, but never when it goes up. So a
key counts as held until a fixed time after its last press. The pump remembers those presses; each
turn handles at most one event and then releases the keys whose time is up.
-/

namespace Chip8

/-- When each key was last pressed, for the keys that have not been released since. -/
structure Pump where
  pressedAt : Table (Option Instant)
  deriving DecidableEq

/-- What a turn of the pump leaves. -/
structure Pumped where
  pump : Pump
  shared : Shared
  result : Except String Unit
  log : List LogLine

namespace Pump

/-- The nanoseconds for which a key counts as held after a press. -/
def holdTime : Nat := 150000000

/-- No key is waiting to be released. -/
def idle : Pump := ⟨Table.const none⟩

/-- Carry out an event. Each event writes exactly one key or one flag. -/
def take (p : Pump) (now : Instant) (s : Shared) : InputEvent → Pump × Shared × List LogLine
  | .key number =>
    let key := number.lowNibble
    (⟨p.pressedAt.put key (some now)⟩, { s with keys := s.keys.set key true }, [])
  | .pause =>
    (p, { s with controls := { s.controls with paused := !s.controls.paused } },
      [if s.controls.paused then .resumed else .paused])
  | .step => (p, { s with controls := { s.controls with stepOnce := true } }, [])
  | .quit => (p, { s with controls := { s.controls with quit := true } }, [])

/-- Whether a key has been waiting for its release long enough. -/
def isDue (p : Pump) (now : Instant) (key : Key) : Bool :=
  match p.pressedAt.entry key with
  | some pressed => decide (holdTime ≤ pressed.elapsed now)
  | none => false

/-- Release a key if its time is up. -/
def expire (now : Instant) (state : Pump × Shared) (key : Key) : Pump × Shared :=
  if state.1.isDue now key then
    (⟨state.1.pressedAt.put key none⟩,
      { state.2 with keys := state.2.keys.set key false })
  else state

/-- Release every key whose time is up. -/
def expireAll (p : Pump) (now : Instant) (s : Shared) : Pump × Shared :=
  (List.finRange 16).foldl (expire now) (p, s)

/-- One turn: handle what the input brought, then release the keys whose time is up. A failing
input changes nothing. -/
def turn (p : Pump) (now : Instant) (reading : Reading) (s : Shared) : Pumped :=
  match reading with
  | .error reason => ⟨p, s, .error reason, []⟩
  | .ok event =>
    let (p, s, log) := match event with
      | some e => p.take now s e
      | none => (p, s, [])
    let (p, s) := p.expireAll now s
    ⟨p, s, .ok (), log⟩

end Pump

/-- What a scripted input brings next, and the rest of the script; nothing once the script has
ended. -/
def nextReading : List Reading → Reading × List Reading
  | [] => (.ok none, [])
  | r :: rest => (r, rest)

end Chip8
