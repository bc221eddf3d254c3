import Chip8.Text.Unprintable

/-!
# Quoted characters and strings

A character or a string is shown between quotation marks. The mark itself and the backslash are
written after a backslash, a few control characters have short forms, and every other character
that has no visible shape of its own is written by its number.
-/

namespace Chip8.Quoted

/-- A character by its number, in lower-case hexadecimal digits. -/
def byNumber (c : Char) : String :=
  "\\u\x7b" ++ String.ofList (Nat.toDigits 16 c.toNat) ++ "\x7d"

/-- The form of a character between the given quotation marks. -/
def escape (mark c : Char) : String :=
  if c = mark ∨ c = '\\' then "\\" ++ c.toString
  else if c = '\t' then "\\t"
  else if c = '\n' then "\\n"
  else if c = '\r' then "\\r"
  else if c.toNat = 0 then "\\0"
  else if unprintable.contains c then byNumber c
  else c.toString

/-- The mark around a character. -/
def apostrophe : Char := Char.ofNat 0x27

/-- The mark around a string. -/
def quotationMark : Char := Char.ofNat 0x22

/-- A character between apostrophes. -/
def char (c : Char) : String := apostrophe.toString ++ escape apostrophe c ++ apostrophe.toString

/-- A string between quotation marks. -/
def string (s : String) : String :=
  quotationMark.toString ++ String.join (s.toList.map (escape quotationMark)) ++
    quotationMark.toString

end Chip8.Quoted
