import Chip8.Memory
import Chip8.Framebuffer
import Chip8.CallStack
import Chip8.Timers
import Chip8.Keypad
import Chip8.RandomSource
import Chip8.Instruction.Text

/-!
# The machine

The state of one machine: memory, sixteen byte registers, the index register, the program counter,
the call stack, the timers, the screen, its view of the keypad, and a source of random bytes. The
last register doubles as the flag of arithmetic and of drawing.
-/

namespace Chip8

/-- The state of a machine. -/
structure Machine where
  memory : Memory
  v : Table Byte
  i : Word
  pc : Word
  stack : CallStack
  timers : Timers
  screen : Framebuffer
  keys : Keypad
  random : RandomSource
  deriving DecidableEq

namespace Machine

/-- The register that holds the flag. -/
def flag : Nibble := ⟨0xF, by decide⟩

/-- The register that a jump with an offset adds. -/
def offset : Nibble := ⟨0, by decide⟩

/-- A machine at power-on with the given keypad and random source. -/
def start (keys : Keypad) (random : RandomSource) (now : Instant) : Machine where
  memory := Memory.initial
  v := Table.const 0
  i := 0
  pc := Memory.programStart
  stack := CallStack.empty
  timers := Timers.start now
  screen := Framebuffer.blank
  keys := keys
  random := random

/-- A machine at power-on whose random source has the given seed and whose keys are released. -/
def ofSeed (seed : UInt64) (now : Instant) : Machine :=
  start Keypad.released (RandomSource.ofSeed seed) now

/-- The value of a register. -/
def register (m : Machine) (x : Nibble) : Byte := m.v.entry x

/-- Put a byte into a register. -/
def setRegister (m : Machine) (x : Nibble) (b : Byte) : Machine := { m with v := m.v.put x b }

/-- Put a result into a register and a flag into the flag register. The flag is written last, so
it wins when the two are the same. -/
def setWithFlag (m : Machine) (x : Nibble) (result flagValue : Byte) : Machine :=
  (m.setRegister x result).setRegister flag flagValue

/-- The registers from the first to the given one. -/
def registersTo (m : Machine) (x : Nibble) : List Byte := m.v.toList.take (x.val + 1)

/-- Put bytes into the registers, from the first one on. -/
def setRegisters (m : Machine) (bytes : List Byte) : Machine :=
  { m with v := Table.build fun x => bytes.getD x.val (m.v.entry x) }

/-- Go on past the next instruction if the condition holds. -/
def skipIf (m : Machine) (condition : Bool) : Machine :=
  if condition then { m with pc := m.pc + 2 } else m

theorem skipIf_eq (m : Machine) (condition : Bool) :
    m.skipIf condition = { m with pc := if condition then m.pc + 2 else m.pc } := by
  cases condition <;> rfl

@[simp] theorem register_setRegister_self (m : Machine) (x : Nibble) (b : Byte) :
    (m.setRegister x b).register x = b := by
  simp [register, setRegister, Table.entry_put]

theorem register_setRegister (m : Machine) (x y : Nibble) (b : Byte) :
    (m.setRegister x b).register y = if x = y then b else m.register y :=
  Table.entry_put m.v x y b

theorem register_setRegisters (m : Machine) (bytes : List Byte) (x : Nibble) :
    (m.setRegisters bytes).register x = bytes.getD x.val (m.register x) :=
  Table.entry_build _ x

/-- The instruction word at an address, which must lie wholly in memory. -/
def instructionAt (m : Machine) (addr : Word) : Except Fault Word :=
  match m.memory.word? addr with
  | some word => .ok word
  | none => .error (.programRunaway addr)

/-- The text of the instruction at an address. -/
def disassembleAt (m : Machine) (addr : Word) : Except Fault String := do
  let word ← m.instructionAt addr
  match Instruction.decode? word with
  | some instruction => .ok instruction.text
  | none => .error (.unknownOpcode word addr)

end Machine

end Chip8
