/-!
# What a terminal shows

A terminal is a grid of cells, each with a character and two colours. Only a part in the upper left
is ever written; every other cell is blank. Writing a cell leaves the others as they are.
-/

namespace Chip8

/-- The colours that are used; any other cell has the terminal's own colours. -/
inductive Colour where
  | black
  | white
  deriving DecidableEq, Repr

/-- A cell of a terminal. No colour is the terminal's own. -/
structure Cell where
  glyph : Char
  foreground : Option Colour := none
  background : Option Colour := none
  deriving DecidableEq, Repr

/-- A cell that has not been written. -/
def Cell.blank : Cell := { glyph := ' ' }

/-- Cells by rows from the top, each from the left. What is not there is blank. -/
abbrev Picture := Array (Array Cell)

namespace Picture

/-- Write an entry of an array, which is filled up to it if it is too short. -/
def putAt {α : Type} (filler : α) (entries : Array α) (place : Nat) (entry : α) : Array α :=
  if place < entries.size then entries.setIfInBounds place entry
  else (entries ++ Array.replicate (place - entries.size) filler).push entry

theorem getD_putAt {α : Type} (filler : α) (entries : Array α) (place : Nat) (entry : α) (k : Nat) :
    (putAt filler entries place entry).getD k filler =
      if k = place then entry else entries.getD k filler := by
  simp only [putAt, Array.getD_eq_getD_getElem?]
  split <;> grind

/-- The cell in a column of a row. -/
def cell (p : Picture) (column row : Nat) : Cell := (p.getD row #[]).getD column Cell.blank

/-- Write a cell. -/
def put (p : Picture) (column row : Nat) (c : Cell) : Picture :=
  putAt #[] p row (putAt Cell.blank (p.getD row #[]) column c)

theorem cell_put (p : Picture) (column row : Nat) (c : Cell) (x y : Nat) :
    (p.put column row c).cell x y = if y = row ∧ x = column then c else p.cell x y := by
  by_cases h : y = row
  · simp only [cell, put, getD_putAt, h, if_true, true_and]
  · simp only [cell, put, getD_putAt, h, if_false, false_and]

/-- The characters in the first columns of a row. -/
def rowText (p : Picture) (row columns : Nat) : String :=
  String.ofList ((List.range columns).map fun column => (p.cell column row).glyph)

end Picture

/-- A terminal: its size, what it shows, and whether the cursor can be seen. -/
structure Terminal where
  columns : Nat
  rows : Nat
  shown : Picture
  cursorVisible : Bool
  deriving DecidableEq, Repr

/-- A terminal of the given size with nothing on it. -/
def Terminal.cleared (columns rows : Nat) : Terminal := ⟨columns, rows, #[], true⟩

end Chip8
