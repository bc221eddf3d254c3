import Chip8.Proofs.Guarded.Access

/-!
# Guarded drawing

The guarded drawing of a sprite works on the cells of the screen as bytes. It walks
over the rows and, in each row, over the columns from the corner to the edge of the
screen, looks at one bit of the row at a time, and flips a cell with a checked index.
It is shown to flip the very pixels that `Framebuffer.blit` flips, in the same order.
-/

namespace Chip8.Guarded

/-- The screen with the given cells, which must be one for every pixel and each zero or one. -/
def screen? (cells : List Byte) : Option Framebuffer :=
  if h : cells.length = 2048 ∧ ∀ c ∈ cells, c = 0 ∨ c = 1 then
    some ⟨⟨(cells.map (· == 1)).toArray, by rw [List.size_toArray, List.length_map]; exact h.1⟩⟩
  else none

/-- Flip the cell at an index, noting whether it was one. -/
def flipCell? (state : List Byte × Bool) (index : Nat) : Option (List Byte × Bool) := do
  let cell ← state.1[index]?
  return (state.1.set index (cell ^^^ 1), state.2 || cell == 1)

/-- A bit of a row, from the left. The mask must not be shifted out of its byte. -/
def bitAt? (row : Byte) (k : Nat) : Option Bool :=
  if k < 8 then some (row &&& (0x80 >>> k) != 0) else none

/-- Draw one bit of a row on a line of the screen; the place is its column and its number. -/
def drawBit? (row : Byte) (line : Nat) (state : List Byte × Bool) (place : Nat × Nat) :
    Option (List Byte × Bool) := do
  if ← bitAt? row place.2 then flipCell? state (line * Framebuffer.width + place.1)
  else return state

/-- Draw a row, whose highest bit is at column `x`, on a line of the screen. -/
def drawRow? (x : Nat) (state : List Byte × Bool) (place : Nat × Byte) :
    Option (List Byte × Bool) :=
  ((List.range' x (Framebuffer.width - x)).zip (List.range 8)).foldlM
    (drawBit? place.2 place.1) state

/-- Draw a sprite; the answer tells whether a cell went from one to zero. -/
def blit? (f : Framebuffer) (x y : Byte) (rows : List Byte) : Option (Framebuffer × Bool) := do
  let startX := x.toNat &&& (Framebuffer.width - 1)
  let startY := y.toNat &&& (Framebuffer.height - 1)
  let lines := (List.range' startY (Framebuffer.height - startY)).zip rows
  let (cells, collision) ← lines.foldlM (drawRow? startX) (f.cells, false)
  return (← screen? cells, collision)

/-- The state of a drawing as the guarded drawing sees it. -/
def shown (state : Framebuffer × Bool) : List Byte × Bool := (state.1.cells, state.2)

theorem screen?_cells (f : Framebuffer) : screen? f.cells = some f := by
  have hcells : f.cells.length = 2048 ∧ ∀ c ∈ f.cells, c = 0 ∨ c = 1 :=
    ⟨by simp [Framebuffer.cells], fun c hc => Framebuffer.eq_zero_or_one_of_mem_cells hc⟩
  have hback : f.cells.map (· == 1) = f.lit.toList := by
    rw [Framebuffer.cells, List.map_map]
    refine (List.map_congr_left fun b _ => ?_).trans (List.map_id _)
    cases b <;> rfl
  rw [screen?, dif_pos hcells]
  congr 2
  apply Vector.toList_inj.mp
  exact hback

theorem bitAt?_eq {k : Nat} (row : Byte) (hk : k < 8) : bitAt? row k = some (row.getMsbD k) := by
  have hbit : ∀ row : Byte, ∀ k < 8, (row &&& (0x80 >>> k) != 0) = row.getMsbD k := by
    decide +kernel
  rw [bitAt?, if_pos hk, hbit row k hk]

/-- Flipping the cell of a pixel is plotting the pixel. -/
theorem flipCell?_index (state : Framebuffer × Bool) (p : Framebuffer.Position) :
    flipCell? (shown state) p.index.val = some (shown (Framebuffer.plot state p)) := by
  obtain ⟨f, collided⟩ := state
  have hcell : f.cells[p.index.val]? = some (if f.pixel p then 1 else 0) := by
    simp [Framebuffer.cells, Framebuffer.pixel]
    rfl
  have hflip : (f.flip p).cells =
      f.cells.set p.index.val ((if f.pixel p then 1 else 0) ^^^ 1) := by
    simp only [Framebuffer.cells, Framebuffer.flip, Vector.toList_set, List.map_set]
    cases f.pixel p <;> rfl
  simp only [flipCell?, shown, Framebuffer.plot, hcell, hflip, Option.bind_eq_bind,
    Option.bind_some]
  cases f.pixel p <;> rfl

/-- Places of a row that lie on the screen are drawn as the pixels there. -/
theorem foldlM_drawBit? {x : Nat} (y : Fin 32) (row : Byte) {places : List Nat}
    (hplaces : ∀ k ∈ places, k < 8 ∧ x + k < 64) (state : Framebuffer × Bool) :
    (places.map fun k => (x + k, k)).foldlM (drawBit? row y.val) (shown state) =
      some (shown ((places.filterMap fun k =>
        if h : x + k < 64 then
          if row.getMsbD k then some ((⟨x + k, h⟩, y) : Framebuffer.Position) else none
        else none).foldl Framebuffer.plot state)) := by
  induction places generalizing state with
  | nil => rfl
  | cons k rest ih =>
      obtain ⟨hk, hx⟩ := hplaces k (List.mem_cons_self ..)
      have hrest : ∀ j ∈ rest, j < 8 ∧ x + j < 64 := fun j hj =>
        hplaces j (List.mem_cons_of_mem _ hj)
      simp only [List.map_cons, List.foldlM_cons, drawBit?, bitAt?_eq row hk,
        Option.bind_eq_bind, Option.bind_some, List.filterMap_cons, dif_pos hx]
      cases row.getMsbD k with
      | false =>
          simp only [Bool.false_eq_true, if_false, Option.pure_def, Option.bind_some]
          exact ih hrest state
      | true =>
          simp only [if_true, List.foldl_cons]
          have hplot := flipCell?_index state (⟨x + k, hx⟩, y)
          simp only [Framebuffer.Position.index] at hplot
          rw [Framebuffer.width, hplot, Option.bind_some]
          exact ih hrest _

theorem zip_range (x n : Nat) :
    (List.range' x n).zip (List.range 8) =
      (List.range (min n 8)).map fun k => (x + k, k) := by
  apply List.ext_getElem
  · simp
  · intro k _ _
    simp

/-- The bits of a row that lie past the right edge have no pixels. -/
theorem rowPixels_eq (x : Nat) (y : Fin 32) (row : Byte) :
    Framebuffer.rowPixels x y row =
      (List.range (min (64 - x) 8)).filterMap fun k =>
        if h : x + k < 64 then
          if row.getMsbD k then some ((⟨x + k, h⟩, y) : Framebuffer.Position) else none
        else none := by
  have hsplit : List.range 8 = List.range (min (64 - x) 8) ++
      (List.range (8 - min (64 - x) 8)).map (min (64 - x) 8 + ·) := by
    rw [← List.range_add]
    congr 1
    omega
  rw [Framebuffer.rowPixels, hsplit, List.filterMap_append, List.append_right_eq_self,
    List.filterMap_eq_nil_iff]
  intro k hk
  obtain ⟨j, hj, rfl⟩ := List.mem_map.mp hk
  rw [List.mem_range] at hj
  rw [dif_neg (by omega)]

theorem drawRow?_eq {x : Nat} (y : Fin 32) (row : Byte) (state : Framebuffer × Bool) :
    drawRow? x (shown state) (y.val, row) =
      some (shown ((Framebuffer.rowPixels x y row).foldl Framebuffer.plot state)) := by
  rw [drawRow?, zip_range, rowPixels_eq]
  apply foldlM_drawBit?
  intro k hk
  rw [List.mem_range, Framebuffer.width] at hk
  omega

/-- Rows below the screen have no pixels. -/
theorem rowsPixels_eq_nil (x : Nat) {y : Nat} (hy : 32 ≤ y) (rows : List Byte) :
    Framebuffer.rowsPixels x y rows = [] := by
  induction rows generalizing y with
  | nil => rfl
  | cons row rest ih =>
      rw [Framebuffer.rowsPixels, dif_neg (by omega), ih (by omega), List.append_nil]

theorem foldlM_drawRow? (x y : Nat) (rows : List Byte) (state : Framebuffer × Bool) :
    ((List.range' y (32 - y)).zip rows).foldlM (drawRow? x) (shown state) =
      some (shown ((Framebuffer.rowsPixels x y rows).foldl Framebuffer.plot state)) := by
  induction rows generalizing y state with
  | nil =>
      rw [List.zip_nil_right]
      rfl
  | cons row rest ih =>
      by_cases hy : y < 32
      · rw [show 32 - y = (32 - (y + 1)) + 1 by omega, List.range'_succ, List.zip_cons_cons,
          List.foldlM_cons, drawRow?_eq ⟨y, hy⟩, Option.bind_eq_bind, Option.bind_some,
          Framebuffer.rowsPixels, dif_pos hy, List.foldl_append]
        exact ih (y + 1) _
      · rw [show 32 - y = 0 by omega, rowsPixels_eq_nil x (by omega)]
        rfl

theorem blit?_eq (f : Framebuffer) (x y : Byte) (rows : List Byte) :
    blit? f x y rows = some (f.blit x y rows) := by
  have hx : x.toNat &&& (Framebuffer.width - 1) = x.toNat % 64 :=
    Nat.and_two_pow_sub_one_eq_mod x.toNat 6
  have hy : y.toNat &&& (Framebuffer.height - 1) = y.toNat % 32 :=
    Nat.and_two_pow_sub_one_eq_mod y.toNat 5
  have hdraw := foldlM_drawRow? (x.toNat % 64) (y.toNat % 32) rows (f, false)
  simp only [shown] at hdraw
  simp only [blit?, hx, hy]
  rw [Framebuffer.height, hdraw]
  simp only [Option.bind_eq_bind, Option.bind_some, screen?_cells]
  rfl

end Chip8.Guarded
