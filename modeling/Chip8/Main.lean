import Chip8.Session.Basic
import Chip8.Terminal.Escape

/-!
# The program

The program runs a session against the clock, with the bytes that come in from the user, and sends
the user every new frame. The terminal is expected to hand over each key as it is typed, without
showing it, and to have room for a frame.
-/

namespace Chip8

namespace Program

/-- Keep what the user types for the session to fetch, until there is no more. -/
partial def listen (keys : IO.FS.Stream) (typed : IO.Ref (List Byte)) : IO Unit := do
  let bytes ← keys.read 64
  if bytes.isEmpty then return
  typed.modify (· ++ bytes.toList.map (·.toBitVec))
  listen keys typed

/-- Say something to the user apart from the frames. -/
def say (messages : List String) : IO Unit := messages.forM IO.eprintln

/-- Send the user some text at once. -/
def send (text : String) : IO Unit := do
  let out ← IO.getStdout
  out.putStr text
  out.flush

/-- Sleep until it is time for the next instruction, and answer when that is. A session that is late
does not catch up. -/
def sleepUntil (due : Nat) : IO Nat := do
  let now ← IO.monoNanosNow
  if due ≤ now then return now
  IO.sleep ((due - now) / 1000000).toUInt32
  return due

/-- Go on with a session to its end. -/
partial def go (typed : IO.Ref (List Byte)) (session : Session) (due : Nat) : IO Ending := do
  match session.threads.result? with
  | some result => return session.ending result
  | none =>
    let bytes ← typed.modifyGet fun bytes => (bytes, [])
    let frames := session.threads.loop.emulator.frames
    let session := if bytes.isEmpty then session else session.typed bytes
    let (next, pause) := { session with now := ← IO.monoNanosNow }.turn
    say next.messages
    if next.threads.loop.emulator.frames ≠ frames then send next.terminal.control
    let due ← match pause with
      | some period => sleepUntil (due + period)
      | none => pure due
    go typed { next with log := [] } due

/-- The number of a failure to read a file. The system gives it a sign. -/
def failureCode? : IO.Error → Option Nat
  | .noFileOrDirectory _ code _ | .inappropriateType _ code _ | .invalidArgument _ code _ =>
    some code.toInt32.toInt.natAbs
  | _ => none

/-- What a failure to read a file amounts to. Any other failure goes on. -/
def fileFailure (failure : IO.Error) : IO (Except FileFailure (List Byte)) :=
  match (failureCode? failure).bind FileFailure.ofCode? with
  | some f => pure (.error f)
  | none => throw failure

/-- Run a program with the settings of a command line. -/
def run (config : Config) : IO Ending := do
  let terminal := Terminal.cleared Picture.frameColumns Picture.frameRows
  let file ← try
      let bytes ← IO.FS.readBinFile config.rom
      pure (.ok (bytes.toList.map (·.toBitVec)))
    catch failure => fileFailure failure
  let now ← IO.monoNanosNow
  match Session.launch config file now.toUInt64 now terminal with
  | .error failure => return failure.ending terminal
  | .ok session =>
    send Terminal.clearControl
    let typed ← IO.mkRef []
    let _ ← IO.asTask (listen (← IO.getStdin) typed) .dedicated
    let ending ← go typed session now
    send (Terminal.cursorControl ending.terminal.cursorVisible ++ "\n\n\n\n")
    return ending

end Program

end Chip8

/-- Run the program that a command line names. -/
def main (words : List String) : IO UInt32 := do
  let ending ← match Chip8.Config.parse words with
    | .ok config => Chip8.Program.run config
    | .error error =>
      pure <| (Chip8.LaunchFailure.usage error).ending (Chip8.Terminal.cleared 0 0)
  Chip8.Program.say ending.messages
  return ending.exitCode.toUInt32
