import Chip8.Terminal.Sheet

/-!
# Printing on a terminal

Changes are printed one after the other. The cursor is sent to the place of a change unless it is
to the right of the change before. Every character is printed into a cell of its own, and moves the
cursor by one cell; a control character does neither.
-/

namespace Chip8

/-- What has been printed so far: what the terminal shows, the column and the row of the cursor, and
the place to which the cursor need not be sent. -/
structure Printout where
  shown : Picture
  cursor : Nat × Nat
  upcoming : Option (Nat × Nat)

namespace Printout

/-- Whether a character is not shown but controls the terminal. -/
def isControl (c : Char) : Bool := c.toNat < 0x20 || (0x7F <= c.toNat && c.toNat < 0xA0)

/-- Print a character in the colours of a slot. -/
def char (slot : Slot) (p : Printout) (c : Char) : Printout :=
  if isControl c then p
  else
    { p with
      shown := p.shown.put p.cursor.1 p.cursor.2 ⟨c, slot.foreground, slot.background⟩
      cursor := (p.cursor.1 + 1, p.cursor.2) }

/-- Print a change. -/
def change (p : Printout) (c : Change) : Printout :=
  let place := (c.column, c.row)
  let placed : Printout := if p.upcoming = some place then p else { p with cursor := place }
  let printed := c.slot.glyph.cluster.foldl (char c.slot) placed
  { printed with upcoming := some (c.column + 1, c.row) }

end Printout

/-- What a terminal shows after some changes have been printed. -/
def Picture.printed (shown : Picture) (changes : List Change) : Picture :=
  (changes.foldl Printout.change ⟨shown, (0, 0), none⟩).shown

end Chip8
