/-!
# The canvas

The pixels of the screen are drawn as points of a canvas with coordinates. The first coordinate of
a cell is its column; the second one grows upward, so the rows below the first one have negative
coordinates. A point is drawn in the column and the row of the grid that its place between the
bounds of the canvas gives.
-/

namespace Chip8

/-- The size of a grid of pixels. -/
structure Resolution where
  width : Nat
  height : Nat
  deriving DecidableEq, Repr

/-- A point of the canvas. -/
abbrev CanvasPoint := Int × Int

namespace Resolution

/-- How many pixels there are. -/
def pixelCount (r : Resolution) : Nat := r.width * r.height

/-- The least and the greatest first coordinate. -/
def xBounds (r : Resolution) : Int × Int := (0, r.width - 1)

/-- The least and the greatest second coordinate. -/
def yBounds (r : Resolution) : Int × Int := (-(r.height - 1), 0)

/-- The point of the pixel at a place in row order. -/
def point (r : Resolution) (place : Nat) : CanvasPoint :=
  ((place % r.width : Nat), -(place / r.width : Nat))

/-- The points of the pixels with the given value, in row order. -/
def plane {α : Type} [DecidableEq α] (r : Resolution) (cells : List α) (value : α) :
    List CanvasPoint :=
  (cells.zipIdx.filter fun c => c.1 = value).map fun c => r.point c.2

/-- The column of the grid that a point falls into. -/
def column (r : Resolution) (p : CanvasPoint) : Int :=
  let (left, right) := r.xBounds
  (p.1 - left) * (r.width - 1) / (right - left)

/-- The row of the grid that a point falls into, counted from the top. -/
def row (r : Resolution) (p : CanvasPoint) : Int :=
  let (bottom, top) := r.yBounds
  (top - p.2) * (r.height - 1) / (top - bottom)

end Resolution

end Chip8
