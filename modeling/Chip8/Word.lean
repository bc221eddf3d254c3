/-!
# Bytes, words and their fields

The machine works on bytes and on sixteen-bit words. An instruction word is read by its fields:
four nibbles from the left, the low byte, and the low twelve bits. Each field is stated as a
quotient or remainder of the word's value.
-/

namespace Chip8

/-- A byte of memory or of a register. -/
abbrev Byte := BitVec 8

/-- A sixteen-bit word: an instruction, the program counter or the index register. -/
abbrev Word := BitVec 16

/-- The twelve bits of an address that an instruction word can carry. -/
abbrev Address := BitVec 12

/-- Four bits, which name a register, a key, a digit or a row count. -/
abbrev Nibble := Fin 16

/-- The low four bits of a byte. -/
def Byte.lowNibble (b : Byte) : Nibble := ⟨b.toNat % 16, by omega⟩

@[simp] theorem Byte.val_lowNibble (b : Byte) : b.lowNibble.val = b.toNat % 16 := rfl

namespace Word

/-- The word of two bytes, the first in the high place. -/
def ofBytes (high low : Byte) : Word := BitVec.ofNat 16 (high.toNat * 256 + low.toNat)

theorem toNat_ofBytes (high low : Byte) :
    (ofBytes high low).toNat = high.toNat * 256 + low.toNat := by
  have := high.isLt
  have := low.isLt
  simp only [ofBytes, BitVec.toNat_ofNat]
  omega

/-- Bits 15 to 12, which select the group of an instruction. -/
def kind (w : Word) : Nibble := ⟨w.toNat / 4096, by have := w.isLt; omega⟩

/-- Bits 11 to 8, the first register operand. -/
def x (w : Word) : Nibble := ⟨w.toNat / 256 % 16, by omega⟩

/-- Bits 7 to 4, the second register operand. -/
def y (w : Word) : Nibble := ⟨w.toNat / 16 % 16, by omega⟩

/-- Bits 3 to 0, a four-bit operand or the selector inside a group. -/
def n (w : Word) : Nibble := ⟨w.toNat % 16, by omega⟩

/-- Bits 7 to 0, a byte operand or the selector inside a group. -/
def nn (w : Word) : Byte := BitVec.ofNat 8 w.toNat

/-- Bits 11 to 0, an address operand. -/
def nnn (w : Word) : Address := BitVec.ofNat 12 w.toNat

@[simp] theorem val_kind (w : Word) : w.kind.val = w.toNat / 4096 := rfl

@[simp] theorem val_x (w : Word) : w.x.val = w.toNat / 256 % 16 := rfl

@[simp] theorem val_y (w : Word) : w.y.val = w.toNat / 16 % 16 := rfl

@[simp] theorem val_n (w : Word) : w.n.val = w.toNat % 16 := rfl

@[simp] theorem toNat_nn (w : Word) : w.nn.toNat = w.toNat % 256 := by
  simp [nn]

@[simp] theorem toNat_nnn (w : Word) : w.nnn.toNat = w.toNat % 4096 := by
  simp [nnn]

/-- The word with the four given nibbles. -/
def ofNibbles (kind x y n : Nibble) : Word :=
  BitVec.ofNat 16 (kind.val * 4096 + x.val * 256 + y.val * 16 + n.val)

/-- The word with the given two nibbles and low byte. -/
def ofByte (kind x : Nibble) (nn : Byte) : Word :=
  BitVec.ofNat 16 (kind.val * 4096 + x.val * 256 + nn.toNat)

/-- The word with the given nibble and low twelve bits. -/
def ofAddress (kind : Nibble) (nnn : Address) : Word :=
  BitVec.ofNat 16 (kind.val * 4096 + nnn.toNat)

theorem toNat_ofNibbles (kind x y n : Nibble) :
    (ofNibbles kind x y n).toNat = kind.val * 4096 + x.val * 256 + y.val * 16 + n.val := by
  simp only [ofNibbles, BitVec.toNat_ofNat]
  omega

theorem toNat_ofByte (kind x : Nibble) (nn : Byte) :
    (ofByte kind x nn).toNat = kind.val * 4096 + x.val * 256 + nn.toNat := by
  have := nn.isLt
  simp only [ofByte, BitVec.toNat_ofNat]
  omega

theorem toNat_ofAddress (kind : Nibble) (nnn : Address) :
    (ofAddress kind nnn).toNat = kind.val * 4096 + nnn.toNat := by
  have := nnn.isLt
  simp only [ofAddress, BitVec.toNat_ofNat]
  omega

/-- A word is determined by its four nibbles. -/
theorem ofNibbles_fields (w : Word) : ofNibbles w.kind w.x w.y w.n = w := by
  have := w.isLt
  apply BitVec.eq_of_toNat_eq
  simp only [toNat_ofNibbles, val_kind, val_x, val_y, val_n]
  omega

end Word

end Chip8
