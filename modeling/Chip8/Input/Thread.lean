import Chip8.Input.Pump

/-!
# The input thread

The input thread turns the pump until the program is to end. If the input fails, the thread reports
it and asks the program to end. In the end it releases all keys.

`InputThread.serve` is the whole of it on a script of readings. `InputThread.advance` is the same
thread taken apart at each access to a key or a flag, for use beside a run loop that reads them.
-/

namespace Chip8

/-- The accesses of the input thread to what it shares, and the places between them. -/
inductive InputPoint where
  /-- About to look whether the program is to end. -/
  | checking
  /-- Waiting for input since the given time. -/
  | reading (since : Instant)
  /-- Releasing the keys whose time is up, with the keys still to be looked at. -/
  | releasing (now : Instant) (rest : List Key)
  /-- The input has failed; about to ask the program to end. -/
  | failing
  /-- Releasing all keys, with the keys still to be released. -/
  | clearing (rest : List Key)
  /-- At the end. -/
  | finished
  deriving DecidableEq, Repr

/-- The input thread: its pump, where it stands, and what it has to answer in the end. -/
structure InputThread where
  pump : Pump
  point : InputPoint
  result : Except String Unit

/-- What the input thread leaves when it has served a script: what is shared, the readings it has
not consumed, its answer if it has come to an end, and the log. -/
structure Served where
  shared : Shared
  left : List Reading
  result : Option (Except String Unit)
  log : List LogLine

namespace InputThread

/-- The thread before its first access. -/
def start : InputThread := ⟨Pump.idle, .checking, .ok ()⟩

/-- Serve a script of readings, the turn at each of them taking place at the time that `clock`
tells for the number of readings still to come. Without an event that ends the program the thread
is still waiting at the end of the script. -/
def serve (clock : Nat → Instant) (p : Pump) (s : Shared) (script : List Reading) : Served :=
  if s.controls.quit then ⟨{ s with keys := Keypad.released }, script, some (.ok ()), []⟩
  else match script with
    | [] => ⟨s, [], none, []⟩
    | reading :: rest =>
      match p.turn (clock rest.length) reading s with
      | ⟨_, s, .error reason, log⟩ =>
        ⟨⟨Keypad.released, { s.controls with quit := true }⟩, rest, some (.error reason),
          log ++ [.inputFailed reason]⟩
      | ⟨p, s, .ok (), log⟩ =>
        let served := serve clock p s rest
        { served with log := log ++ served.log }

/-- The next access of the thread. The time counts where a turn begins, the reading where the thread
waits for one. -/
def advance (t : InputThread) (now : Instant) (reading : Reading) (s : Shared) :
    InputThread × Shared × List LogLine :=
  match t.point with
  | .checking =>
    ({ t with point := if s.controls.quit then .clearing (List.finRange 16) else .reading now },
      s, [])
  | .reading since =>
    match reading with
    | .error reason =>
      ({ t with point := .failing, result := .error reason }, s, [.inputFailed reason])
    | .ok none => ({ t with point := .releasing since (List.finRange 16) }, s, [])
    | .ok (some e) =>
      let (pump, s, log) := t.pump.take since s e
      ({ t with pump := pump, point := .releasing since (List.finRange 16) }, s, log)
  | .releasing _ [] => ({ t with point := .checking }, s, [])
  | .releasing since (key :: rest) =>
    let (pump, s) := Pump.expire since (t.pump, s) key
    ({ t with pump := pump, point := .releasing since rest }, s, [])
  | .failing =>
    ({ t with point := .checking }, { s with controls := { s.controls with quit := true } }, [])
  | .clearing [] => ({ t with point := .finished }, s, [])
  | .clearing (key :: rest) =>
    ({ t with point := .clearing rest }, { s with keys := s.keys.set key false }, [])
  | .finished => (t, s, [])

end InputThread

end Chip8
