import Chip8.Table

/-!
# The digit font

Sixteen glyphs, one for each hexadecimal digit, of five rows each. A glyph uses the left four bits
of its rows. The glyphs stand one after the other from `start` on.
-/

namespace Chip8.Font

/-- The address of the glyph of the digit zero. -/
def start : Word := 0x050

/-- How many rows, and so bytes, a glyph has. -/
def glyphSize : Nat := 5

/-- The rows of the sixteen glyphs, each from the top. -/
def glyphs : Table (List Byte) :=
  #v[[0xF0, 0x90, 0x90, 0x90, 0xF0],
     [0x20, 0x60, 0x20, 0x20, 0x70],
     [0xF0, 0x10, 0xF0, 0x80, 0xF0],
     [0xF0, 0x10, 0xF0, 0x10, 0xF0],
     [0x90, 0x90, 0xF0, 0x10, 0x10],
     [0xF0, 0x80, 0xF0, 0x10, 0xF0],
     [0xF0, 0x80, 0xF0, 0x90, 0xF0],
     [0xF0, 0x10, 0x20, 0x40, 0x40],
     [0xF0, 0x90, 0xF0, 0x90, 0xF0],
     [0xF0, 0x90, 0xF0, 0x10, 0xF0],
     [0xF0, 0x90, 0xF0, 0x90, 0x90],
     [0xE0, 0x90, 0xE0, 0x90, 0xE0],
     [0xF0, 0x80, 0x80, 0x80, 0xF0],
     [0xE0, 0x90, 0x90, 0x90, 0xE0],
     [0xF0, 0x80, 0xF0, 0x80, 0xF0],
     [0xF0, 0x80, 0xF0, 0x80, 0x80]]

/-- The rows of the glyph of a digit, from the top. -/
def glyph (digit : Nibble) : List Byte := glyphs.entry digit

/-- All glyphs in order. -/
def bytes : List Byte := (List.finRange 16).flatMap glyph

/-- Where the glyph of a digit starts. -/
def glyphStart (digit : Nibble) : Word := start + BitVec.ofNat 16 (digit.val * glyphSize)

theorem length_bytes : bytes.length = 16 * glyphSize := by decide

end Chip8.Font
