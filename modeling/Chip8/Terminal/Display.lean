import Chip8.Terminal.Picture
import Chip8.Terminal.Printout

/-!
# Frames on a terminal

A display draws frames on a terminal that it has taken over. It remembers the sheet that it has
drawn last, and prints only what is different on the next one. A frame needs as many cells as the
screen has pixels, and a terminal that is large enough for its picture. When the terminal has got
another size since the last frame it is blanked first.

A frame that cannot be finished is left on the draft, where the next frame is painted over it.
-/

namespace Chip8

/-- A display on a terminal: the sheet that the terminal shows, and the one for the next frame. -/
structure Display where
  drawn : Sheet
  draft : Sheet
  deriving DecidableEq, Repr

/-- Why a frame cannot be drawn. -/
inductive DisplayFailure where
  /-- The frame has too few or too many cells. -/
  | wrongCellCount
  /-- The terminal is too small. -/
  | terminalTooSmall
  deriving DecidableEq, Repr

namespace Display

/-- Take a terminal over: it is cleared. -/
def acquire (t : Terminal) : Display × Terminal :=
  let (columns, rows) := Sheet.dimensions t.columns t.rows
  (⟨.blank columns rows, .blank columns rows⟩, { t with shown := #[] })

/-- Give the terminal back: the cursor can be seen again. -/
def release (t : Terminal) : Terminal := { t with cursorVisible := true }

/-- Blank the terminal if it has got another size. -/
def followSize (d : Display) (t : Terminal) : Display × Terminal :=
  let (columns, rows) := Sheet.dimensions t.columns t.rows
  if d.draft.columns = columns ∧ d.draft.rows = rows then (d, t)
  else (⟨.blank columns rows, d.draft.resized columns rows⟩, { t with shown := #[] })

/-- Draw a frame. -/
def draw (d : Display) (t : Terminal) (cells : List Byte) (status : String) :
    (Display × Terminal) × Except DisplayFailure Unit :=
  if cells.length ≠ Picture.resolution.pixelCount then ((d, t), .error .wrongCellCount)
  else
    let (d, t) := d.followSize t
    let sheet := Picture.paint cells status d.draft
    if Picture.fits sheet then
      ((⟨sheet, .blank sheet.columns sheet.rows⟩,
        { t with shown := t.shown.printed (d.drawn.changes sheet), cursorVisible := false }),
        .ok ())
    else (({ d with draft := sheet }, t), .error .terminalTooSmall)

end Display

end Chip8
