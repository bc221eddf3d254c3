import Chip8.Machine.Execute

/-!
# Stepping the machine

A step fetches the word at the program counter, moves the counter past it, decodes the word, carries
the instruction out, and then lets the timers decay if a period has gone by. A step that fails keeps
whatever had been done before the failure: the counter has moved unless there was no word to fetch,
and nothing else has changed.
-/

namespace Chip8

/-- What a step tells those who show the screen and sound the buzzer. -/
structure Status where
  /-- The screen has to be shown again. -/
  redraw : Bool
  /-- The sound timer is running. -/
  sound : Bool
  /-- The delay timer is running. -/
  delay : Bool
  deriving DecidableEq, Repr

namespace Machine

/-- Let the timers decay if a period has gone by, and report on them. -/
def settle (m : Machine) (now : Instant) (redraw : Bool) : Machine × Status :=
  let timers := (m.timers.update now).1
  ({ m with timers := timers }, ⟨redraw, timers.sound != 0, timers.delay != 0⟩)

/-- Carry out one instruction at the given time. -/
def step (m : Machine) (now : Instant) : Outcome Status :=
  let address := m.pc
  match m.instructionAt address with
  | .error fault => ⟨m, .error fault, []⟩
  | .ok word =>
    let m := { m with pc := address + 2 }
    match Instruction.decode? word with
    | none => ⟨m, .error (.unknownOpcode word address), []⟩
    | some instruction =>
      let trace := LogLine.executing address word instruction
      match m.execute address instruction with
      | ⟨m, .error fault, log⟩ => ⟨m, .error fault, trace :: log⟩
      | ⟨m, .ok redraw, log⟩ =>
        let (m, status) := m.settle now redraw
        ⟨m, .ok status, trace :: log⟩

end Machine

end Chip8
