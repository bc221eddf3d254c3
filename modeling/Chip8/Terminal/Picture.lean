import Chip8.Framebuffer
import Chip8.Terminal.Canvas
import Chip8.Terminal.Sheet

/-!
# The picture of a frame

A frame is drawn as two boxes, one below the other: the pixels in the first one, half a cell each,
and two lines of text in the second. It is painted on a sheet from the top: the background of the
first box by rows, its border and its pixels, then the second box. On a sheet that is too small the
painter stops at the first slot that is missing.
-/

namespace Chip8

namespace Picture

/-- The pixels of a frame. -/
def resolution : Resolution := ⟨Framebuffer.width, Framebuffer.height⟩

/-- How many columns a frame takes up. -/
def frameColumns : Nat := resolution.width + 2

/-- How many rows the box with the pixels takes up. -/
def pixelRows : Nat := resolution.height + 2

/-- How many lines of text fit below the pixels. -/
def textLines : Nat := 2

/-- How many rows the box with the text takes up. -/
def textRows : Nat := textLines + 2

/-- How many rows a frame takes up. -/
def frameRows : Nat := pixelRows + textRows

/-- The glyph of a pixel. -/
def pixelGlyph : Glyph := .ofChar '▄'

/-- The lines at the sides of a box. -/
def upright : Glyph := .ofChar '│'

/-- The lines at the top and the bottom of a box. -/
def level : Glyph := .ofChar '─'

/-- The corners of a box, at the top from the left, then at the bottom. -/
def upperLeft : Glyph := .ofChar '┌'
@[inherit_doc upperLeft] def upperRight : Glyph := .ofChar '┐'
@[inherit_doc upperLeft] def lowerLeft : Glyph := .ofChar '└'
@[inherit_doc upperLeft] def lowerRight : Glyph := .ofChar '┘'

/-- The title of the box with the pixels. -/
def title : Array Glyph := ("CHIP-8".toList.map Glyph.ofChar).toArray

/-- The glyph at a place on the border of a box with a title at the left end of its top. -/
def border? (title : Array Glyph) (columns rows column row : Nat) : Option Glyph :=
  if row = 0 then
    if column = 0 then some upperLeft
    else if column + 1 = columns then some upperRight
    else some (title.getD (column - 1) level)
  else if row + 1 = rows then
    if column = 0 then some lowerLeft
    else if column + 1 = columns then some lowerRight
    else some level
  else if column = 0 ∨ column + 1 = columns then some upright
  else none

/-- The colours of the grid after the given points have been drawn. -/
def paintPoints (grid : Vector (Option Colour) 2048) (points : List CanvasPoint)
    (colour : Colour) : Vector (Option Colour) 2048 :=
  points.foldl
    (fun grid p =>
      let place := resolution.row p * Framebuffer.width + resolution.column p
      grid.setIfInBounds place.toNat (some colour))
    grid

/-- The colour of every pixel: dark ones are black, lit ones white, and nothing is drawn for other
values. -/
def colours (cells : List Byte) : Vector (Option Colour) 2048 :=
  let blank := Vector.replicate 2048 none
  paintPoints (paintPoints blank (resolution.plane cells 0) .black) (resolution.plane cells 1)
    .white

/-- A slot with the background of the box with the pixels. -/
def shaded (s : Slot) : Slot := { s with background := some .black }

/-- What a slot of the box with the pixels becomes. Where no pixel is drawn it keeps its glyph. -/
def pixelSlot (grid : Array (Option Colour)) (column row : Nat) (s : Slot) : Slot :=
  match border? title frameColumns pixelRows column row with
  | some g => { shaded s with glyph := g }
  | none =>
    match grid.getD ((row - 1) * Framebuffer.width + (column - 1)) none with
    | some colour => { glyph := pixelGlyph, foreground := some colour }
    | none => shaded s

/-- A line without the carriage return at its end. -/
def withoutReturn (line : List Char) : List Char :=
  if line.getLast? = some '\r' then line.dropLast else line

/-- The lines of a text. What ends a line is a line feed, with or without a carriage return. -/
def lines (text : List Char) : List (List Char) :=
  let parts := text.splitOn '\n'
  parts.dropLast.map withoutReturn ++ parts.getLast?.toList

/-- Put glyphs side by side from a place on, as many as fit. A glyph without a width stays where it
is only if none follows it. One that is too wide for a whole line is left out. -/
def putGlyphs (place : Nat) : List Glyph → Array (Option Glyph) → Array (Option Glyph)
  | [], row => row
  | g :: rest, row =>
    if resolution.width < g.width then putGlyphs place rest row
    else if resolution.width < place + g.width then row
    else putGlyphs (place + g.width) rest (row.setIfInBounds place (some g))

/-- The glyphs of a line at their places. The last place is on the border, and is for a glyph
without a width after a full line. -/
def lineGlyphs (line : List Char) : Array (Option Glyph) :=
  putGlyphs 0 ((Cluster.clusters line).map Glyph.ofCluster)
    (Array.replicate (resolution.width + 1) none)

/-- The glyphs of the lines that are shown. -/
def textGlyphs (status : String) : Array (Array (Option Glyph)) :=
  (((lines status.toList).take textLines).map lineGlyphs).toArray

/-- What a slot of the box with the text becomes. -/
def textSlot (text : Array (Array (Option Glyph))) (column row : Nat) (s : Slot) : Slot :=
  let written? : Option Glyph :=
    if row = 0 ∨ column = 0 then none else (text.getD (row - 1) #[]).getD (column - 1) none
  match written?.or (border? #[] frameColumns textRows column row) with
  | some g => { s with glyph := g }
  | none => s

/-- Whether there is room for a frame on a sheet. -/
def fits (s : Sheet) : Bool := frameColumns <= s.columns && frameRows <= s.rows

/-- Paint a frame on a sheet, as far as there is room for it. -/
def paint (cells : List Byte) (status : String) (s : Sheet) : Sheet :=
  if s.columns < frameColumns then
    s.mapSlots fun _ row slot => if row = 0 then shaded slot else slot
  else if s.rows < pixelRows then
    s.mapSlots fun column _ slot => if column < frameColumns then shaded slot else slot
  else
    let grid := (colours cells).toArray
    let text := textGlyphs status
    s.mapSlots fun column row slot =>
      if frameColumns ≤ column then slot
      else if row < pixelRows then pixelSlot grid column row slot
      else if row < frameRows ∧ frameRows ≤ s.rows then textSlot text column (row - pixelRows) slot
      else slot

end Picture

end Chip8
