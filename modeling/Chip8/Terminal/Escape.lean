import Chip8.Terminal.Cell

/-!
# Control sequences

A terminal shows a picture when it is sent the text of `Terminal.control`: every cell is written in
its place, in its colours, and then the cursor is shown or hidden.
-/

namespace Chip8

namespace Terminal

/-- The character that opens a control sequence, and the bracket after it. -/
def controlStart : String := "\x1b["

/-- The number of a colour in the palette of a terminal. -/
def paletteNumber : Colour → Nat
  | .black => 0
  | .white => 15

/-- The sequence that makes a terminal write in the colours of a cell. -/
def colourControl (c : Cell) : String :=
  let part (code : String) : Option Colour → String
    | none => ""
    | some colour => ";" ++ code ++ ";5;" ++ toString (paletteNumber colour)
  controlStart ++ "0" ++ part "38" c.foreground ++ part "48" c.background ++ "m"

/-- The sequence that moves the cursor to the start of a row. -/
def rowControl (row : Nat) : String := controlStart ++ toString (row + 1) ++ ";1H"

/-- The text that writes the cells of a row, given the cell before them, if there is one. Colours
are sent where they change. -/
def cellsControl : (before : Option Cell) → List Cell → String
  | _, [] => ""
  | before, c :: rest =>
    let kept := before.any fun b => b.foreground = c.foreground ∧ b.background = c.background
    (if kept then "" else colourControl c) ++ String.singleton c.glyph ++ cellsControl (some c) rest

/-- The sequence that blanks a terminal. -/
def clearControl : String := colourControl Cell.blank ++ controlStart ++ "2J"

/-- The sequence that shows or hides the cursor. -/
def cursorControl (visible : Bool) : String :=
  controlStart ++ "?25" ++ (if visible then "h" else "l")

/-- The text that makes a blank terminal show what it is to show. -/
def control (t : Terminal) : String :=
  String.join (t.shown.toList.zipIdx.map fun (cells, row) =>
      rowControl row ++ cellsControl none cells.toList) ++
    colourControl Cell.blank ++ cursorControl t.cursorVisible

end Terminal

end Chip8
