import Chip8.Machine.Step

/-!
# Operations on a machine

Everything that can be done to a machine from outside, as data: loading a program, going back to
power-on, a step at a given time, and changes of the keypad. A history of a machine is a list of
operations.
-/

namespace Chip8

namespace Machine

/-- Load a program and point the program counter at it. A source that fails, or a program that is
too large, leaves the counter alone. -/
def load (m : Machine) (source : ByteSource) : Outcome Nat :=
  match m.memory.loadProgram source with
  | (memory, .ok size) =>
    ⟨{ m with memory := memory, pc := Memory.programStart }, .ok size, [.programLoaded size]⟩
  | (memory, .error fault) => ⟨{ m with memory := memory }, .error fault, []⟩

/-- Go back to power-on: each part is set up anew, but the keypad and the random source stay as they
are. A font that did not fit would leave the machine alone. -/
def reset (m : Machine) (now : Instant) : Outcome Unit :=
  match Memory.zeroed.loadFont Font.bytes with
  | (_, .error fault) => ⟨m, .error fault, []⟩
  | (memory, .ok ()) =>
    ⟨{ m with
        memory := memory
        v := Table.const 0
        i := 0
        pc := Memory.programStart
        stack := CallStack.empty
        timers := Timers.start now
        screen := m.screen.clear },
      .ok (), [.machineReset]⟩

end Machine

/-- Something done to a machine from outside. -/
inductive Operation where
  /-- Load a program. -/
  | load (source : ByteSource)
  /-- Go back to power-on. -/
  | reset (now : Instant)
  /-- Carry out one instruction. -/
  | step (now : Instant)
  /-- Press or release a key. -/
  | key (key : Key) (down : Bool)
  /-- Release all keys. -/
  | releaseKeys

/-- What an operation that goes well answers. -/
inductive Reply where
  | loaded (size : Nat)
  | stepped (status : Status)
  | changed
  deriving DecidableEq, Repr

/-- The same outcome with another form of answer. -/
def Outcome.map {α β : Type} (f : α → β) (o : Outcome α) : Outcome β :=
  ⟨o.machine, o.answer.map f, o.log⟩

namespace Machine

/-- Do one operation. -/
def perform (m : Machine) : Operation → Outcome Reply
  | .load source => (m.load source).map .loaded
  | .reset now => (m.reset now).map fun _ => .changed
  | .step now => (m.step now).map .stepped
  | .key key down => ⟨{ m with keys := m.keys.set key down }, .ok .changed, []⟩
  | .releaseKeys => ⟨{ m with keys := Keypad.released }, .ok .changed, []⟩

/-- The machine after a list of operations, in order, each done whether or not the one before went
well. -/
def afterAll (m : Machine) (operations : List Operation) : Machine :=
  operations.foldl (fun m operation => (m.perform operation).machine) m

/-- What a number of steps has come to: the machine, the time of the last step, how many steps went
well, the status of the last one or the fault that ended the run early, and the log. -/
structure Progress where
  machine : Machine
  now : Instant
  done : Nat
  answer : Except Fault (Option Status)
  log : List LogLine

/-- Carry out up to `count` instructions, `interval` nanoseconds apart, the first one an interval
after `now`; a fault ends the run. -/
def run (m : Machine) (now : Instant) (interval : Int) : (count : Nat) → Progress
  | 0 => ⟨m, now, 0, .ok none, []⟩
  | count + 1 =>
    match m.step (now + interval) with
    | ⟨m, .error fault, log⟩ => ⟨m, now + interval, 0, .error fault, log⟩
    | ⟨m, .ok status, log⟩ =>
      let rest := m.run (now + interval) interval count
      ⟨rest.machine, rest.now, rest.done + 1, rest.answer.map (·.or (some status)),
        log ++ rest.log⟩

end Machine

end Chip8
