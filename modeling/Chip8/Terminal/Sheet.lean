import Chip8.Terminal.Cell
import Chip8.Text.Width

/-!
# Sheets

What a terminal is to show is first written on a sheet, which has a slot for every cell. A slot
holds a whole cluster of characters; a cluster that is wider than its slot covers the slots to the
right of it. Two sheets of the same size are compared slot by slot, which gives the changes that
turn what the one shows into what the other one shows.
-/

namespace Chip8

/-- A cluster and the number of cells that it takes up. -/
structure Glyph where
  cluster : Cluster
  width : Nat
  width_eq : width = Width.ofCluster cluster
  deriving DecidableEq, Repr

namespace Glyph

/-- The glyph of a cluster. -/
def ofCluster (cluster : Cluster) : Glyph := ⟨cluster, Width.ofCluster cluster, rfl⟩

/-- The glyph of a character. -/
def ofChar (c : Char) : Glyph := ofCluster [c]

/-- The glyph of an empty slot. -/
def blank : Glyph := ofChar ' '

end Glyph

/-- A place for a glyph, with its colours. -/
structure Slot where
  glyph : Glyph := Glyph.blank
  foreground : Option Colour := none
  background : Option Colour := none
  deriving DecidableEq, Repr

/-- A slot with nothing in it. -/
def Slot.blank : Slot := {}

/-- Slots by rows from the top, each from the left. -/
structure Sheet where
  columns : Nat
  rows : Nat
  slots : Array Slot
  size_slots : slots.size = columns * rows
  deriving DecidableEq, Repr

/-- A slot of a sheet that is not to be left as it is. -/
structure Change where
  column : Nat
  row : Nat
  slot : Slot
  deriving DecidableEq, Repr

namespace Sheet

/-- How many slots a sheet has at most. -/
def largestSize : Nat := 65535

/-- The powers of two that can be part of a root. -/
def rootBits : List Nat :=
  [32768, 16384, 8192, 4096, 2048, 1024, 512, 256, 128, 64, 32, 16, 8, 4, 2, 1]

/-- The largest number below 65536 whose square is at most `n`. -/
def root (n : Nat) : Nat :=
  rootBits.foldl (fun part bit => if (part + bit) * (part + bit) ≤ n then part + bit else part) 0

/-- The columns and rows of the sheet for a terminal: those of the terminal, or fewer in the same
proportion if there would be too many slots. -/
def dimensions (columns rows : Nat) : Nat × Nat :=
  if columns * rows ≤ largestSize then (columns, rows)
  else (root (largestSize * columns / rows), root (largestSize * rows / columns))

/-- A sheet with nothing on it. -/
def blank (columns rows : Nat) : Sheet where
  columns := columns
  rows := rows
  slots := Array.replicate (columns * rows) Slot.blank
  size_slots := Array.size_replicate

/-- A sheet of another size. The slots keep their order, from row to row. -/
def resized (s : Sheet) (columns rows : Nat) : Sheet where
  columns := columns
  rows := rows
  slots := Array.ofFn fun place : Fin (columns * rows) => s.slots.getD place.val Slot.blank
  size_slots := Array.size_ofFn

/-- Write every slot, given its column and its row. -/
def mapSlots (s : Sheet) (f : (column row : Nat) → Slot → Slot) : Sheet where
  columns := s.columns
  rows := s.rows
  slots := s.slots.mapIdx fun place slot => f (place % s.columns) (place / s.columns) slot
  size_slots := Array.size_mapIdx.trans s.size_slots

/-- A comparison of two sheets that has come to a place: how many slots from there are covered by a
glyph of the new sheet, how many have been covered by one of either sheet, and the changes, the last
one first. -/
structure Comparison where
  place : Nat
  covered : Nat
  disturbed : Nat
  changes : List Change

/-- Compare the slots at a place. A covered slot is not written, and a disturbed one is written even
if it is to stay as it was. Only the glyph before a slot covers it. -/
def Comparison.next (columns : Nat) (c : Comparison) (slots : Slot × Slot) : Comparison :=
  let (old, new) := slots
  { place := c.place + 1
    covered := new.glyph.width - 1
    disturbed := max (max new.glyph.width old.glyph.width) c.disturbed - 1
    changes :=
      if (old ≠ new ∨ 0 < c.disturbed) ∧ c.covered = 0 then
        ⟨c.place % columns, c.place / columns, new⟩ :: c.changes
      else c.changes }

/-- The changes that turn what a sheet shows into what another one of its size shows. -/
def changes (old new : Sheet) : List Change :=
  ((old.slots.zip new.slots).foldl (Comparison.next old.columns) ⟨0, 0, 0, []⟩).changes.reverse

end Sheet

end Chip8
