import Chip8.Word

/-!
# The screen

The screen has 64 by 32 pixels, each lit or dark. A sprite is eight pixels wide and is drawn by
flipping the pixels at its set bits. The position of its corner is taken modulo the size of the
screen; what lies past the right or the bottom edge from there is cut off.

The view of a screen is `pixel`.
-/

namespace Chip8

/-- The pixels of the screen, row after row from the top. -/
structure Framebuffer where
  lit : Vector Bool 2048
  deriving DecidableEq

namespace Framebuffer

/-- The number of columns. -/
def width : Nat := 64

/-- The number of rows. -/
def height : Nat := 32

/-- A position on the screen: a column from the left and a row from the top. -/
abbrev Position := Fin 64 × Fin 32

/-- The place of a pixel in row order. -/
def Position.index (p : Position) : Fin 2048 := ⟨p.2.val * 64 + p.1.val, by omega⟩

theorem Position.index_injective {p q : Position} (h : p.index = q.index) : p = q := by
  have hval := congrArg Fin.val h
  simp only [index] at hval
  apply Prod.ext <;> apply Fin.ext <;> omega

/-- The dark screen. -/
def blank : Framebuffer := ⟨Vector.replicate 2048 false⟩

/-- Whether a pixel is lit. -/
def pixel (f : Framebuffer) (p : Position) : Bool := f.lit[p.index]

/-- Whether the pixel in column `x` of row `y`, counted on through the rows, is lit; nothing past
the last one. -/
def cell? (f : Framebuffer) (x y : Nat) : Option Bool := f.lit[y * width + x]?

/-- The pixels as bytes in row order: one for lit, zero for dark. -/
def cells (f : Framebuffer) : List Byte := f.lit.toList.map fun b => if b then 1 else 0

theorem eq_zero_or_one_of_mem_cells {f : Framebuffer} {c : Byte} (hc : c ∈ f.cells) :
    c = 0 ∨ c = 1 := by
  obtain ⟨b, -, rfl⟩ := List.mem_map.mp hc
  cases b
  · exact .inl rfl
  · exact .inr rfl

/-- Turn every pixel dark. -/
def clear (f : Framebuffer) : Framebuffer := ⟨f.lit.map fun _ => false⟩

/-- Turn a lit pixel dark and a dark one lit. -/
def flip (f : Framebuffer) (p : Position) : Framebuffer := ⟨f.lit.set p.index (!f.pixel p)⟩

@[simp] theorem pixel_blank (p : Position) : blank.pixel p = false := by
  simp [blank, pixel]

@[simp] theorem clear_eq_blank (f : Framebuffer) : f.clear = blank := by
  simp only [clear, blank]
  congr 1
  apply Vector.ext
  intro i hi
  simp

theorem pixel_flip (f : Framebuffer) (p q : Position) :
    (f.flip p).pixel q = if p = q then !f.pixel q else f.pixel q := by
  unfold flip
  by_cases h : p = q
  · subst h; simp [pixel]
  · have hne : p.index.val ≠ q.index.val := fun e => h (Position.index_injective (Fin.ext e))
    simp [pixel, h, hne]

/-- Two screens with the same pixels are the same. -/
theorem ext_pixel {f g : Framebuffer} (h : ∀ p, f.pixel p = g.pixel p) : f = g := by
  cases f; cases g
  congr 1
  apply Vector.ext
  intro i hi
  have := h (⟨i % 64, by omega⟩, ⟨i / 64, by omega⟩)
  simp only [pixel, Position.index, Fin.getElem_fin] at this
  simpa [show i / 64 * 64 + i % 64 = i by omega] using this

/-- The on-screen pixels under the set bits of one sprite row, whose highest bit is at column
`x`. -/
def rowPixels (x : Nat) (y : Fin 32) (row : Byte) : List Position :=
  (List.range 8).filterMap fun k =>
    if h : x + k < 64 then
      if row.getMsbD k then some (⟨x + k, h⟩, y) else none
    else none

/-- The on-screen pixels under the set bits of the rows of a sprite, the first row at `y`. -/
def rowsPixels (x y : Nat) : List Byte → List Position
  | [] => []
  | row :: rest =>
    (if h : y < 32 then rowPixels x ⟨y, h⟩ row else []) ++ rowsPixels x (y + 1) rest

/-- The pixels that a sprite flips when its corner is at the given position. -/
def spritePixels (x y : Byte) (rows : List Byte) : List Position :=
  rowsPixels (x.toNat % 64) (y.toNat % 32) rows

/-- Flip a pixel, noting whether it was lit. -/
def plot (state : Framebuffer × Bool) (p : Position) : Framebuffer × Bool :=
  (state.1.flip p, state.2 || state.1.pixel p)

/-- Draw a sprite; the answer tells whether a lit pixel was turned dark. -/
def blit (f : Framebuffer) (x y : Byte) (rows : List Byte) : Framebuffer × Bool :=
  (spritePixels x y rows).foldl plot (f, false)

/-- After flipping pixels one by one, a pixel has changed if it was among them an odd number of
times. -/
theorem pixel_foldl_flip (f : Framebuffer) (ps : List Position) (q : Position) :
    (ps.foldl flip f).pixel q = (f.pixel q ^^ decide (ps.count q % 2 = 1)) := by
  induction ps generalizing f with
  | nil => simp
  | cons p rest ih =>
    rw [List.foldl_cons, ih, pixel_flip, List.count_cons]
    by_cases h : p = q
    · subst h
      have hparity : ((rest.count p + 1) % 2 = 1) ↔ ¬ rest.count p % 2 = 1 := by omega
      by_cases hodd : rest.count p % 2 = 1 <;> simp [hparity, hodd]
    · simp [h]

/-- The screen that plotting leaves is the one that flipping leaves. -/
theorem foldl_plot_fst (state : Framebuffer × Bool) (ps : List Position) :
    (ps.foldl plot state).1 = ps.foldl flip state.1 := by
  induction ps generalizing state with
  | nil => rfl
  | cons p rest ih => exact ih (plot state p)

theorem pixel_blit (f : Framebuffer) (x y : Byte) (rows : List Byte) (q : Position) :
    (f.blit x y rows).1.pixel q =
      (f.pixel q ^^ decide ((spritePixels x y rows).count q % 2 = 1)) := by
  rw [blit, foldl_plot_fst, pixel_foldl_flip]

end Framebuffer

end Chip8
