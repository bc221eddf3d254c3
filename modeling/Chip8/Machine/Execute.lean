import Chip8.Machine.Basic
import Chip8.Decimal
import Chip8.Log

/-!
# What each instruction does

`execute` carries out one instruction. The program counter already points past the instruction;
`address` is where the instruction was fetched from. Every instruction leaves a machine, also when
it fails, together with an answer and what it reports.
-/

namespace Chip8

/-- What an operation on a machine leaves: the machine, the answer or the fault, and the log. -/
structure Outcome (α : Type) where
  machine : Machine
  answer : Except Fault α
  log : List LogLine

namespace Machine

/-- What an instruction has done: whether the screen has to be shown again is its answer. -/
abbrev Effect := Outcome Bool

/-- An instruction has gone well and left the screen alone. -/
def done (m : Machine) (log : List LogLine := []) : Effect := ⟨m, .ok false, log⟩

/-- The sum of two bytes and the carry. -/
def addFlagged (a b : Byte) : Byte × Byte :=
  (a + b, if 256 ≤ a.toNat + b.toNat then 1 else 0)

/-- The difference of two bytes and the absence of a borrow. -/
def subFlagged (a b : Byte) : Byte × Byte :=
  (a - b, if b.toNat ≤ a.toNat then 1 else 0)

/-- A byte shifted right by one place and the bit that was lost. -/
def shiftRightFlagged (a : Byte) : Byte × Byte := (a >>> 1, a &&& 1)

/-- A byte shifted left by one place and the bit that was lost. -/
def shiftLeftFlagged (a : Byte) : Byte × Byte := (a <<< 1, a >>> 7)

/-- Go back to the address stacked last. -/
def executeReturn (m : Machine) (address : Word) : Effect :=
  match m.stack.pop? with
  | some (target, stack) =>
    done { m with pc := target, stack := stack } [.returned address target]
  | none => ⟨m, .error (.stackUnderflow address), []⟩

/-- Stack the program counter and go to an address. -/
def executeCall (m : Machine) (address : Word) (target : Address) : Effect :=
  match m.stack.push? m.pc with
  | some stack =>
    done { m with pc := target.setWidth 16, stack := stack } [.called address target stack.depth]
  | none => ⟨m, .error (.stackOverflow address), []⟩

/-- Draw the sprite that the index register points at. The position is read before the flag register
is cleared, and the collision is its new value. -/
def executeDraw (m : Machine) (x y rows : Nibble) : Effect :=
  let sprite := m.memory.slice m.i rows.val
  let (screen, collision) := m.screen.blit (m.register x) (m.register y) sprite
  ⟨{ m with screen := screen }.setRegister flag (if collision then 1 else 0), .ok true, []⟩

/-- Put the lowest held key into a register, or go back to the instruction if no key is held. -/
def executeAwaitKey (m : Machine) (address : Word) (x : Nibble) : Effect :=
  match m.keys.first? with
  | some key => done (m.setRegister x (BitVec.ofNat 8 key.val)) [.keyTaken address key]
  | none => done { m with pc := m.pc - 2 }

/-- Carry out one instruction fetched from `address`. -/
def execute (m : Machine) (address : Word) : Instruction → Effect
  | .clearScreen => ⟨{ m with screen := m.screen.clear }, .ok true, []⟩
  | .ret => m.executeReturn address
  | .jump target => done { m with pc := target.setWidth 16 }
  | .call target => m.executeCall address target
  | .skipIfByte x value => done (m.skipIf (m.register x == value))
  | .skipUnlessByte x value => done (m.skipIf (m.register x != value))
  | .skipIfSame x y => done (m.skipIf (m.register x == m.register y))
  | .skipIfDiffer x y => done (m.skipIf (m.register x != m.register y))
  | .loadByte x value => done (m.setRegister x value)
  | .addByte x value => done (m.setRegister x (m.register x + value))
  | .copy x y => done (m.setRegister x (m.register y))
  | .or x y => done (m.setWithFlag x (m.register x ||| m.register y) 0)
  | .and x y => done (m.setWithFlag x (m.register x &&& m.register y) 0)
  | .xor x y => done (m.setWithFlag x (m.register x ^^^ m.register y) 0)
  | .add x y =>
    let (result, carry) := addFlagged (m.register x) (m.register y)
    done (m.setWithFlag x result carry)
  | .sub x y =>
    let (result, noBorrow) := subFlagged (m.register x) (m.register y)
    done (m.setWithFlag x result noBorrow)
  | .subFrom x y =>
    let (result, noBorrow) := subFlagged (m.register y) (m.register x)
    done (m.setWithFlag x result noBorrow)
  | .shiftRight x =>
    let (result, lost) := shiftRightFlagged (m.register x)
    done (m.setWithFlag x result lost)
  | .shiftLeft x =>
    let (result, lost) := shiftLeftFlagged (m.register x)
    done (m.setWithFlag x result lost)
  | .setIndex target => done { m with i := target.setWidth 16 }
  | .jumpOffset base =>
    done { m with pc := base.setWidth 16 + (m.register offset).setWidth 16 }
  | .random x mask =>
    let (byte, random) := m.random.next
    done ({ m with random := random }.setRegister x (byte &&& mask))
  | .draw x y rows => m.executeDraw x y rows
  | .skipIfHeld x => done (m.skipIf (m.keys.isHeld (m.register x).lowNibble))
  | .skipUnlessHeld x => done (m.skipIf (!m.keys.isHeld (m.register x).lowNibble))
  | .readDelay x => done (m.setRegister x m.timers.delay)
  | .awaitKey x => m.executeAwaitKey address x
  | .setDelay x => done { m with timers := { m.timers with delay := m.register x } }
  | .setSound x => done { m with timers := { m.timers with sound := m.register x } }
  | .addIndex x => done { m with i := m.i + (m.register x).setWidth 16 }
  | .pointAtDigit x => done { m with i := Font.glyphStart (m.register x).lowNibble }
  | .storeDecimal x =>
    done { m with memory := (m.memory.write m.i (Decimal.digits (m.register x))).1 }
  | .storeRegisters x => done { m with memory := (m.memory.write m.i (m.registersTo x)).1 }
  | .loadRegisters x => done (m.setRegisters (m.memory.slice m.i (x.val + 1)))

end Machine

end Chip8
