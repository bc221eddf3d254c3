import Chip8.Machine.Basic

/-!
# The status of a machine in two lines

The first line shows the program counter, the index register, the depth of the call stack and the
next instruction, the second the registers. Where there is no instruction, three question marks
stand for it.
-/

namespace Chip8.Machine

/-- The text of the instruction at the program counter, or three question marks. -/
def nextInstructionText (m : Machine) : String :=
  match m.disassembleAt m.pc with
  | .ok text => text
  | .error _ => "???"

/-- The first line of the status. -/
def statusHead (m : Machine) : String :=
  "PC:" ++ Hex.padded 3 m.pc.toNat ++ " I:" ++ Hex.padded 3 m.i.toNat ++ " SP:" ++
    Hex.padded 1 m.stack.depth ++ " " ++ m.nextInstructionText

/-- The second line of the status. -/
def statusRegisters (m : Machine) : String :=
  "V0-F:" ++ String.join (m.v.toList.map fun b => " " ++ Hex.padded 2 b.toNat)

/-- The two lines of the status. -/
def statusLine (m : Machine) : String := m.statusHead ++ "\n" ++ m.statusRegisters

end Chip8.Machine
