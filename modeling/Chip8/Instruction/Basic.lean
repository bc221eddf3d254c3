import Chip8.Word

/-!
# The instruction set

An instruction carries operands that are in range by their types. `word` is its form as an
instruction word; the two shifts leave a nibble of the word unused, which is a parameter. `decode?`
reads a word and refuses every word that is no instruction's form.
-/

namespace Chip8

/-- The instructions, each with the word that stands for it. -/
inductive Instruction where
  /-- Form 00E0: blank the screen. -/
  | clearScreen
  /-- Form 00EE: go back to the address stacked last. -/
  | ret
  /-- Form 1nnn: go to an address. -/
  | jump (target : Address)
  /-- Form 2nnn: stack the return address and go to an address. -/
  | call (target : Address)
  /-- Form 3xnn: skip the next instruction if a register holds a byte. -/
  | skipIfByte (x : Nibble) (value : Byte)
  /-- Form 4xnn: skip the next instruction unless a register holds a byte. -/
  | skipUnlessByte (x : Nibble) (value : Byte)
  /-- Form 5xy0: skip the next instruction if two registers agree. -/
  | skipIfSame (x y : Nibble)
  /-- Form 6xnn: put a byte into a register. -/
  | loadByte (x : Nibble) (value : Byte)
  /-- Form 7xnn: add a byte to a register, without a flag. -/
  | addByte (x : Nibble) (value : Byte)
  /-- Form 8xy0: copy the second register into the first. -/
  | copy (x y : Nibble)
  /-- Form 8xy1: bitwise or. -/
  | or (x y : Nibble)
  /-- Form 8xy2: bitwise and. -/
  | and (x y : Nibble)
  /-- Form 8xy3: bitwise exclusive or. -/
  | xor (x y : Nibble)
  /-- Form 8xy4: add, with the carry as flag. -/
  | add (x y : Nibble)
  /-- Form 8xy5: subtract the second register from the first, with the absence of a borrow as
  flag. -/
  | sub (x y : Nibble)
  /-- Form 8xy6: shift right by one place, with the lost bit as flag. -/
  | shiftRight (x : Nibble)
  /-- Form 8xy7: subtract the first register from the second, with the absence of a borrow as
  flag. -/
  | subFrom (x y : Nibble)
  /-- Form 8xyE: shift left by one place, with the lost bit as flag. -/
  | shiftLeft (x : Nibble)
  /-- Form 9xy0: skip the next instruction if two registers differ. -/
  | skipIfDiffer (x y : Nibble)
  /-- Form Annn: point the index register at an address. -/
  | setIndex (target : Address)
  /-- Form Bnnn: go to an address plus the value of the first register. -/
  | jumpOffset (base : Address)
  /-- Form Cxnn: put the next random byte, masked, into a register. -/
  | random (x : Nibble) (mask : Byte)
  /-- Form Dxyn: draw a sprite of `rows` rows at the position two registers hold. -/
  | draw (x y : Nibble) (rows : Nibble)
  /-- Form Ex9E: skip the next instruction if the key a register names is held. -/
  | skipIfHeld (x : Nibble)
  /-- Form ExA1: skip the next instruction unless the key a register names is held. -/
  | skipUnlessHeld (x : Nibble)
  /-- Form Fx07: read the delay timer. -/
  | readDelay (x : Nibble)
  /-- Form Fx0A: wait for a key and put it into a register. -/
  | awaitKey (x : Nibble)
  /-- Form Fx15: set the delay timer. -/
  | setDelay (x : Nibble)
  /-- Form Fx18: set the sound timer. -/
  | setSound (x : Nibble)
  /-- Form Fx1E: add a register to the index register. -/
  | addIndex (x : Nibble)
  /-- Form Fx29: point the index register at the glyph of a digit. -/
  | pointAtDigit (x : Nibble)
  /-- Form Fx33: store the three decimal digits of a register. -/
  | storeDecimal (x : Nibble)
  /-- Form Fx55: store the registers from the first to the given one. -/
  | storeRegisters (x : Nibble)
  /-- Form Fx65: load the registers from the first to the given one. -/
  | loadRegisters (x : Nibble)
  deriving DecidableEq, Repr

namespace Instruction

/-- The word of an instruction; `spare` is the nibble that the two shifts do not use. -/
def word (spare : Nibble) : Instruction → Word
  | clearScreen => 0x00E0
  | ret => 0x00EE
  | jump target => .ofAddress 0x1 target
  | call target => .ofAddress 0x2 target
  | skipIfByte x value => .ofByte 0x3 x value
  | skipUnlessByte x value => .ofByte 0x4 x value
  | skipIfSame x y => .ofNibbles 0x5 x y 0x0
  | loadByte x value => .ofByte 0x6 x value
  | addByte x value => .ofByte 0x7 x value
  | copy x y => .ofNibbles 0x8 x y 0x0
  | or x y => .ofNibbles 0x8 x y 0x1
  | and x y => .ofNibbles 0x8 x y 0x2
  | xor x y => .ofNibbles 0x8 x y 0x3
  | add x y => .ofNibbles 0x8 x y 0x4
  | sub x y => .ofNibbles 0x8 x y 0x5
  | shiftRight x => .ofNibbles 0x8 x spare 0x6
  | subFrom x y => .ofNibbles 0x8 x y 0x7
  | shiftLeft x => .ofNibbles 0x8 x spare 0xE
  | skipIfDiffer x y => .ofNibbles 0x9 x y 0x0
  | setIndex target => .ofAddress 0xA target
  | jumpOffset base => .ofAddress 0xB base
  | random x mask => .ofByte 0xC x mask
  | draw x y rows => .ofNibbles 0xD x y rows
  | skipIfHeld x => .ofByte 0xE x 0x9E
  | skipUnlessHeld x => .ofByte 0xE x 0xA1
  | readDelay x => .ofByte 0xF x 0x07
  | awaitKey x => .ofByte 0xF x 0x0A
  | setDelay x => .ofByte 0xF x 0x15
  | setSound x => .ofByte 0xF x 0x18
  | addIndex x => .ofByte 0xF x 0x1E
  | pointAtDigit x => .ofByte 0xF x 0x29
  | storeDecimal x => .ofByte 0xF x 0x33
  | storeRegisters x => .ofByte 0xF x 0x55
  | loadRegisters x => .ofByte 0xF x 0x65

/-- The instruction that a word stands for, if it stands for one. -/
def decode? (w : Word) : Option Instruction :=
  match w.kind.val with
  | 0x0 =>
    match w.toNat with
    | 0x00E0 => some clearScreen
    | 0x00EE => some ret
    | _ => none
  | 0x1 => some (jump w.nnn)
  | 0x2 => some (call w.nnn)
  | 0x3 => some (skipIfByte w.x w.nn)
  | 0x4 => some (skipUnlessByte w.x w.nn)
  | 0x5 => if w.n = 0 then some (skipIfSame w.x w.y) else none
  | 0x6 => some (loadByte w.x w.nn)
  | 0x7 => some (addByte w.x w.nn)
  | 0x8 =>
    match w.n.val with
    | 0x0 => some (copy w.x w.y)
    | 0x1 => some (or w.x w.y)
    | 0x2 => some (and w.x w.y)
    | 0x3 => some (xor w.x w.y)
    | 0x4 => some (add w.x w.y)
    | 0x5 => some (sub w.x w.y)
    | 0x6 => some (shiftRight w.x)
    | 0x7 => some (subFrom w.x w.y)
    | 0xE => some (shiftLeft w.x)
    | _ => none
  | 0x9 => if w.n = 0 then some (skipIfDiffer w.x w.y) else none
  | 0xA => some (setIndex w.nnn)
  | 0xB => some (jumpOffset w.nnn)
  | 0xC => some (random w.x w.nn)
  | 0xD => some (draw w.x w.y w.n)
  | 0xE =>
    match w.nn.toNat with
    | 0x9E => some (skipIfHeld w.x)
    | 0xA1 => some (skipUnlessHeld w.x)
    | _ => none
  | 0xF =>
    match w.nn.toNat with
    | 0x07 => some (readDelay w.x)
    | 0x0A => some (awaitKey w.x)
    | 0x15 => some (setDelay w.x)
    | 0x18 => some (setSound w.x)
    | 0x1E => some (addIndex w.x)
    | 0x29 => some (pointAtDigit w.x)
    | 0x33 => some (storeDecimal w.x)
    | 0x55 => some (storeRegisters w.x)
    | 0x65 => some (loadRegisters w.x)
    | _ => none
  | _ => none

end Instruction

end Chip8
