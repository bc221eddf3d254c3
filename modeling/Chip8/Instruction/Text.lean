import Chip8.Instruction.Basic
import Chip8.Text.Hex

/-!
# Disassembly

The text of an instruction is a mnemonic and its operands: registers as `V` and a digit, addresses
with three digits, bytes with two.
-/

namespace Chip8.Instruction

/-- The name of a register: `V0` to `VF`. -/
def registerName (x : Nibble) : String := "V" ++ Hex.padded 1 x.val

/-- An address operand, in three digits. -/
def addressText (a : Address) : String := Hex.padded 3 a.toNat

/-- A byte operand, in two digits. -/
def byteText (b : Byte) : String := Hex.padded 2 b.toNat

/-- A mnemonic with two operands. -/
def withOperands (mnemonic first second : String) : String :=
  mnemonic ++ " " ++ first ++ ", " ++ second

/-- The assembly text of an instruction. -/
def text : Instruction → String
  | clearScreen => "CLS"
  | ret => "RET"
  | jump target => "JP " ++ addressText target
  | call target => "CALL " ++ addressText target
  | skipIfByte x value => withOperands "SE" (registerName x) (byteText value)
  | skipUnlessByte x value => withOperands "SNE" (registerName x) (byteText value)
  | skipIfSame x y => withOperands "SE" (registerName x) (registerName y)
  | loadByte x value => withOperands "LD" (registerName x) (byteText value)
  | addByte x value => withOperands "ADD" (registerName x) (byteText value)
  | copy x y => withOperands "LD" (registerName x) (registerName y)
  | or x y => withOperands "OR" (registerName x) (registerName y)
  | and x y => withOperands "AND" (registerName x) (registerName y)
  | xor x y => withOperands "XOR" (registerName x) (registerName y)
  | add x y => withOperands "ADD" (registerName x) (registerName y)
  | sub x y => withOperands "SUB" (registerName x) (registerName y)
  | shiftRight x => "SHR " ++ registerName x
  | subFrom x y => withOperands "SUBN" (registerName x) (registerName y)
  | shiftLeft x => "SHL " ++ registerName x
  | skipIfDiffer x y => withOperands "SNE" (registerName x) (registerName y)
  | setIndex target => withOperands "LD" "I" (addressText target)
  | jumpOffset base => withOperands "JP" "V0" (addressText base)
  | random x mask => withOperands "RND" (registerName x) (byteText mask)
  | draw x y rows =>
    withOperands "DRW" (registerName x) (registerName y) ++ ", " ++ Hex.padded 1 rows.val
  | skipIfHeld x => "SKP " ++ registerName x
  | skipUnlessHeld x => "SKNP " ++ registerName x
  | readDelay x => withOperands "LD" (registerName x) "DT"
  | awaitKey x => withOperands "LD" (registerName x) "K"
  | setDelay x => withOperands "LD" "DT" (registerName x)
  | setSound x => withOperands "LD" "ST" (registerName x)
  | addIndex x => withOperands "ADD" "I" (registerName x)
  | pointAtDigit x => withOperands "LD" "F" (registerName x)
  | storeDecimal x => withOperands "LD" "B" (registerName x)
  | storeRegisters x => withOperands "LD" "[I]" (registerName x)
  | loadRegisters x => withOperands "LD" (registerName x) "[I]"

/-- The text of the instruction that a word stands for, if it stands for one. -/
def disassemble? (w : Word) : Option String := (decode? w).map text

end Chip8.Instruction
