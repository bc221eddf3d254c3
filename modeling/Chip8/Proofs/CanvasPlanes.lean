import Mathlib.Data.List.Nodup
import Mathlib.Data.Rat.Floor
import Chip8.Terminal.Picture

/-!
# The planes of a frame on the canvas

A frame is drawn by its planes: the points of the dark cells, then those of the lit ones. The place
of a cell and its point determine each other, by division with the width as divisor; `within_iff`
finds the points of the cells among all points by the bounds of the canvas alone. So the two planes
share out the canvas. On the grid a point is scaled by what the bounds span, which is one less than
the number of columns or rows, and comes to lie where its cell is in the frame.
-/

namespace Chip8

namespace Resolution

variable {r : Resolution}

/-- A point lies within the bounds of the canvas. -/
def Within (r : Resolution) (p : CanvasPoint) : Prop :=
  (r.xBounds.1 ≤ p.1 ∧ p.1 ≤ r.xBounds.2) ∧ r.yBounds.1 ≤ p.2 ∧ p.2 ≤ r.yBounds.2

/-- A point comes before another one in row order: it lies in a higher row, or in the same row
further to the left. -/
def Precedes (p q : CanvasPoint) : Prop := q.2 < p.2 ∨ p.2 = q.2 ∧ p.1 < q.1

/-! ## Places and points -/

/-- The place of a pixel is recovered from its point. -/
theorem place_point (r : Resolution) (place : Nat) :
    -(r.point place).2 * r.width + (r.point place).1 = place := by
  have hplace := Nat.div_add_mod' place r.width
  simp only [point, neg_neg]
  exact_mod_cast hplace

theorem point_injective (r : Resolution) : Function.Injective r.point := by
  intro i j h
  have hi := r.place_point i
  rw [h, r.place_point j] at hi
  exact_mod_cast hi.symm

theorem precedes_point {i j : Nat} (h : i < j) : Precedes (r.point i) (r.point j) := by
  have hdiv : i / r.width ≤ j / r.width := Nat.div_le_div_right h.le
  rcases hdiv.lt_or_eq with hrow | hrow
  · left
    simp only [point]
    omega
  · right
    have hi := Nat.div_add_mod' i r.width
    have hj := Nat.div_add_mod' j r.width
    rw [hrow] at hi
    have hcolumn : i % r.width < j % r.width := by omega
    exact ⟨by simp only [point, hrow], Int.ofNat_lt.mpr hcolumn⟩

theorem mod_place {column row : Nat} (hcolumn : column < r.width) :
    (row * r.width + column) % r.width = column := by
  rw [Nat.mul_add_mod', Nat.mod_eq_of_lt hcolumn]

theorem div_place {column row : Nat} (hcolumn : column < r.width) :
    (row * r.width + column) / r.width = row := by
  have hpos : 0 < r.width := by omega
  rw [Nat.mul_comm, Nat.mul_add_div hpos, Nat.div_eq_of_lt hcolumn, Nat.add_zero]

/-- The points within the bounds are those of the pixels. -/
theorem within_iff (hwidth : 0 < r.width) {p : CanvasPoint} :
    r.Within p ↔ ∃ place < r.pixelCount, r.point place = p := by
  constructor
  · obtain ⟨x, y⟩ := p
    rintro ⟨⟨hleft, hright⟩, hbottom, htop⟩
    simp only [xBounds, yBounds] at hleft hright hbottom htop
    obtain ⟨column, rfl⟩ := Int.eq_ofNat_of_zero_le hleft
    obtain ⟨row, hrow⟩ := Int.eq_ofNat_of_zero_le (Int.neg_nonneg.mpr htop)
    refine ⟨row * r.width + column, ?_, ?_⟩
    · have : row + 1 ≤ r.height := by omega
      calc
        row * r.width + column < (row + 1) * r.width := by rw [Nat.add_mul]; omega
        _ ≤ r.height * r.width := Nat.mul_le_mul_right _ this
        _ = r.pixelCount := Nat.mul_comm ..
    · rw [point, mod_place (by omega), div_place (by omega), ← hrow, Int.neg_neg]
  · rintro ⟨place, hplace, rfl⟩
    have hcolumn : place % r.width < r.width := Nat.mod_lt _ hwidth
    have hrow : place / r.width < r.height := Nat.div_lt_of_lt_mul hplace
    simp only [Within, xBounds, yBounds, point]
    generalize place % r.width = column at hcolumn
    generalize place / r.width = row at hrow
    omega

/-! ## Planes -/

section

variable {α : Type} [DecidableEq α] (r : Resolution) (cells : List α) (value : α)

/-- A plane has the points of the cells with its value, in the order of their places. -/
theorem plane_eq :
    r.plane cells value =
      ((List.range cells.length).filter fun place => cells[place]? = some value).map r.point := by
  have hplaces : List.range cells.length = cells.zipIdx.map Prod.snd := by
    rw [List.zipIdx_map_snd, List.range_eq_range']
  have hvalue : ∀ c ∈ cells.zipIdx, decide (cells[c.2]? = some value) = decide (c.1 = value) := by
    rintro ⟨cell, place⟩ hmem
    rw [List.mem_zipIdx_iff_getElem?] at hmem
    simp only [hmem, Option.some.injEq]
  rw [plane, hplaces, List.filter_map, List.map_map]
  rw [← List.filter_congr hvalue]
  rfl

theorem mem_plane_iff {p : CanvasPoint} :
    p ∈ r.plane cells value ↔ ∃ place, cells[place]? = some value ∧ r.point place = p := by
  rw [plane_eq, List.mem_map]
  constructor
  · rintro ⟨place, hmem, hpoint⟩
    rw [List.mem_filter, decide_eq_true_eq] at hmem
    exact ⟨place, hmem.2, hpoint⟩
  · rintro ⟨place, hvalue, hpoint⟩
    refine ⟨place, ?_, hpoint⟩
    rw [List.mem_filter, List.mem_range, decide_eq_true_eq]
    exact ⟨(List.getElem?_eq_some_iff.mp hvalue).1, hvalue⟩

theorem pairwise_plane : (r.plane cells value).Pairwise Precedes := by
  rw [plane_eq, List.pairwise_map]
  exact (List.pairwise_lt_range.filter _).imp precedes_point

theorem nodup_plane : (r.plane cells value).Nodup := by
  rw [plane_eq]
  exact List.Nodup.map r.point_injective (List.nodup_range.filter _)

/-- Planes of different values have no points in common. -/
theorem disjoint_plane {value other : α} (h : value ≠ other) :
    (r.plane cells value).Disjoint (r.plane cells other) := by
  intro p hvalue hother
  obtain ⟨place, hcell, hpoint⟩ := (r.mem_plane_iff cells value).mp hvalue
  obtain ⟨place', hcell', hpoint'⟩ := (r.mem_plane_iff cells other).mp hother
  obtain rfl := r.point_injective (hpoint.trans hpoint'.symm)
  exact h (Option.some.inj (hcell.symm.trans hcell'))

end

theorem within_of_mem_plane {α : Type} [DecidableEq α] {cells : List α} {value : α}
    (hwidth : 0 < r.width) (hcells : cells.length = r.pixelCount) {p : CanvasPoint}
    (hp : p ∈ r.plane cells value) : r.Within p := by
  obtain ⟨place, hcell, hpoint⟩ := (r.mem_plane_iff cells value).mp hp
  have hplace := (List.getElem?_eq_some_iff.mp hcell).1
  exact (within_iff hwidth).mpr ⟨place, hcells ▸ hplace, hpoint⟩

/-- The planes of the values of a frame have all points within the bounds. -/
theorem exists_mem_plane_of_within {α : Type} [DecidableEq α] {cells : List α}
    (hwidth : 0 < r.width) (hcells : cells.length = r.pixelCount) {p : CanvasPoint}
    (hp : r.Within p) : ∃ value ∈ cells, p ∈ r.plane cells value := by
  obtain ⟨place, hplace, hpoint⟩ := (within_iff hwidth).mp hp
  rw [← hcells] at hplace
  exact ⟨cells[place], List.getElem_mem hplace,
    (r.mem_plane_iff cells _).mpr ⟨place, List.getElem?_eq_getElem hplace, hpoint⟩⟩

/-! ## The grid -/

theorem floor_mul_div (a b : Int) {c : Int} (hc : 0 ≤ c) : ⌊(a * b / c : ℚ)⌋ = a * b / c := by
  obtain ⟨n, rfl⟩ := Int.eq_ofNat_of_zero_le hc
  exact_mod_cast Rat.floor_intCast_div_natCast (a * b) n

/-- The column is computed in exact rational arithmetic and rounded down. -/
theorem column_eq_floor (hwidth : 0 < r.width) (p : CanvasPoint) :
    r.column p = ⌊((p.1 - r.xBounds.1) * (r.width - 1) / (r.xBounds.2 - r.xBounds.1) : ℚ)⌋ := by
  have hspan : 0 ≤ r.xBounds.2 - r.xBounds.1 := by
    simp only [xBounds]
    omega
  have hfloor := floor_mul_div (p.1 - r.xBounds.1) (r.width - 1) hspan
  push_cast at hfloor
  exact hfloor.symm

/-- The row is computed in exact rational arithmetic and rounded down. -/
theorem row_eq_floor (hheight : 0 < r.height) (p : CanvasPoint) :
    r.row p = ⌊((r.yBounds.2 - p.2) * (r.height - 1) / (r.yBounds.2 - r.yBounds.1) : ℚ)⌋ := by
  have hspan : 0 ≤ r.yBounds.2 - r.yBounds.1 := by
    simp only [yBounds]
    omega
  have hfloor := floor_mul_div (r.yBounds.2 - p.2) (r.height - 1) hspan
  push_cast at hfloor
  exact hfloor.symm

/-- A pixel is drawn in its own column. -/
theorem column_point (hwidth : 2 ≤ r.width) (place : Nat) :
    r.column (r.point place) = (place % r.width : Nat) := by
  have hspan : (r.width : Int) - 1 ≠ 0 := by omega
  simp only [column, xBounds, point, Int.sub_zero]
  exact Int.mul_ediv_cancel _ hspan

theorem row_point (hheight : 2 ≤ r.height) (place : Nat) :
    r.row (r.point place) = (place / r.width : Nat) := by
  have hspan : (r.height : Int) - 1 ≠ 0 := by omega
  simp only [row, yBounds, point, Int.zero_sub, Int.neg_neg]
  exact Int.mul_ediv_cancel _ hspan

end Resolution

/-! ## The picture -/

namespace Picture

/-- Points that are drawn take their colour on, and the rest of the grid is left as it is. -/
theorem getElem_paintPoints (grid : Vector (Option Colour) 2048) (points : List CanvasPoint)
    (colour : Colour) (place : Nat) (hplace : place < 2048) :
    (paintPoints grid points colour)[place] =
      if ∃ p ∈ points, (resolution.row p * Framebuffer.width + resolution.column p).toNat = place
      then some colour else grid[place] := by
  induction points generalizing grid with
  | nil => simp [paintPoints]
  | cons p rest ih =>
      let drawn := (resolution.row p * Framebuffer.width + resolution.column p).toNat
      have hstep : paintPoints grid (p :: rest) colour =
          paintPoints (grid.setIfInBounds drawn (some colour)) rest colour := rfl
      rw [hstep, ih, Vector.getElem_setIfInBounds]
      simp only [List.mem_cons, exists_eq_or_imp]
      by_cases hrest : ∃ q ∈ rest,
          (resolution.row q * Framebuffer.width + resolution.column q).toNat = place
      · rw [if_pos hrest, if_pos (.inr hrest)]
      · rw [if_neg hrest]
        by_cases hp : drawn = place
        · rw [if_pos hp, if_pos (.inl hp)]
        · rw [if_neg hp, if_neg (not_or.mpr ⟨hp, hrest⟩)]

/-- A plane of a frame is drawn over exactly the places of its cells. -/
theorem getElem_paintPoints_plane (grid : Vector (Option Colour) 2048) (cells : List Byte)
    (value : Byte) (colour : Colour) (place : Nat) (hplace : place < 2048) :
    (paintPoints grid (resolution.plane cells value) colour)[place] =
      if cells[place]? = some value then some colour else grid[place] := by
  have hdrawn : (∃ p ∈ resolution.plane cells value,
      (resolution.row p * Framebuffer.width + resolution.column p).toNat = place) ↔
        cells[place]? = some value := by
    have hback : ∀ i, (resolution.row (resolution.point i) * Framebuffer.width +
        resolution.column (resolution.point i)).toNat = i := by
      intro i
      rw [Resolution.row_point (by decide), Resolution.column_point (by decide)]
      exact_mod_cast Nat.div_add_mod' i 64
    constructor
    · rintro ⟨p, hp, hp'⟩
      obtain ⟨i, hcell, rfl⟩ := (Resolution.mem_plane_iff ..).mp hp
      rw [hback] at hp'
      exact hp' ▸ hcell
    · intro hcell
      exact ⟨_, (Resolution.mem_plane_iff ..).mpr ⟨place, hcell, rfl⟩, hback place⟩
  rw [getElem_paintPoints]
  simp only [hdrawn]

/-- The picture of a frame shows every cell in its own place: black for zero and white for one. -/
theorem getElem_colours (cells : List Byte) (place : Nat) (hplace : place < 2048) :
    (colours cells)[place] =
      if cells[place]? = some 1 then some .white
      else if cells[place]? = some 0 then some .black else none := by
  rw [colours, getElem_paintPoints_plane, getElem_paintPoints_plane, Vector.getElem_replicate]

end Picture

namespace Resolution

variable {r : Resolution} {cells : List Byte}

/-- The points within the bounds are those of the two planes of a frame of zeros and ones. -/
theorem within_iff_mem_planes (hwidth : 0 < r.width) (hcells : cells.length = r.pixelCount)
    (hvalues : ∀ c ∈ cells, c = 0 ∨ c = 1) {p : CanvasPoint} :
    r.Within p ↔ p ∈ r.plane cells 0 ∨ p ∈ r.plane cells 1 := by
  constructor
  · intro hwithin
    obtain ⟨value, hvalue, hp⟩ := exists_mem_plane_of_within hwidth hcells hwithin
    rcases hvalues value hvalue with rfl | rfl
    · exact .inl hp
    · exact .inr hp
  · rintro (hp | hp)
    · exact within_of_mem_plane hwidth hcells hp
    · exact within_of_mem_plane hwidth hcells hp

/-- The two planes of a frame of zeros and ones have all points of the canvas between them, each
once. -/
theorem perm_planes (hwidth : 0 < r.width) (hcells : cells.length = r.pixelCount)
    (hvalues : ∀ c ∈ cells, c = 0 ∨ c = 1) :
    (r.plane cells 0 ++ r.plane cells 1).Perm ((List.range r.pixelCount).map r.point) := by
  have hboth : (r.plane cells 0 ++ r.plane cells 1).Nodup :=
    List.Nodup.append (r.nodup_plane cells 0) (r.nodup_plane cells 1)
      (r.disjoint_plane cells (by decide))
  have hall : ((List.range r.pixelCount).map r.point).Nodup :=
    List.Nodup.map r.point_injective List.nodup_range
  rw [List.perm_ext_iff_of_nodup hboth hall]
  intro p
  rw [List.mem_append, ← within_iff_mem_planes hwidth hcells hvalues, within_iff hwidth,
    List.mem_map]
  simp only [List.mem_range]

/-- A point within the bounds lies in one of the two planes of a frame, and not in the other. -/
theorem within_iff_xor (hwidth : 0 < r.width) (hcells : cells.length = r.pixelCount)
    (hvalues : ∀ c ∈ cells, c = 0 ∨ c = 1) (p : CanvasPoint) :
    r.Within p ↔ Xor (p ∈ r.plane cells 0) (p ∈ r.plane cells 1) := by
  have hdisjoint : (r.plane cells 0).Disjoint (r.plane cells 1) :=
    r.disjoint_plane cells (by decide)
  rw [within_iff_mem_planes hwidth hcells hvalues]
  constructor
  · rintro (hp | hp)
    · exact .inl ⟨hp, fun hother => hdisjoint hp hother⟩
    · exact .inr ⟨hp, fun hother => hdisjoint hother hp⟩
  · exact Xor.or

/-- The points of a plane are those of the cells with its value, each once and in row order: the
cell at a place has the remainder and the negated quotient of the place by the width. They lie
within the bounds of the canvas, and a point tells its place. The two planes of a frame of zeros and
ones share out all points within the bounds. The grid draws a point in the column and the row that
exact rational arithmetic gives, rounded down; so the pixel in a column and a row of the frame is
drawn in this column and this row, and the picture of a frame has the colour of every cell in the
cell's place. -/
theorem planes_tile_canvas (hwidth : 2 ≤ r.width) (hheight : 2 ≤ r.height)
    (hcells : cells.length = r.pixelCount) :
    (∀ value,
      r.plane cells value =
          ((List.range r.pixelCount).filter fun i => cells[i]? = some value).map
            (fun i => (((i % r.width : Nat) : Int), -((i / r.width : Nat) : Int))) ∧
        (r.plane cells value).Nodup ∧ (r.plane cells value).Pairwise Precedes ∧
        ∀ p ∈ r.plane cells value, r.Within p) ∧
    (∀ i : Nat, -(r.point i).2 * r.width + (r.point i).1 = i) ∧
    ((∀ c ∈ cells, c = 0 ∨ c = 1) →
      (r.plane cells 0 ++ r.plane cells 1).Perm ((List.range r.pixelCount).map r.point) ∧
        ∀ p, r.Within p ↔ Xor (p ∈ r.plane cells 0) (p ∈ r.plane cells 1)) ∧
    (∀ p,
      r.column p = ⌊((p.1 - r.xBounds.1) * (r.width - 1) / (r.xBounds.2 - r.xBounds.1) : ℚ)⌋ ∧
      r.row p = ⌊((r.yBounds.2 - p.2) * (r.height - 1) / (r.yBounds.2 - r.yBounds.1) : ℚ)⌋) ∧
    (∀ column row : Nat, column < r.width →
      r.column (r.point (row * r.width + column)) = column ∧
        r.row (r.point (row * r.width + column)) = row) ∧
    ∀ place : Fin 2048, (Picture.colours cells)[place.val] =
      if cells[place.val]? = some 1 then some .white
      else if cells[place.val]? = some 0 then some .black else none := by
  have hpos : 0 < r.width := by omega
  refine ⟨fun value => ⟨?_, r.nodup_plane cells value, r.pairwise_plane cells value, ?_⟩,
    r.place_point,
    fun hvalues => ⟨perm_planes hpos hcells hvalues, within_iff_xor hpos hcells hvalues⟩,
    fun p => ⟨column_eq_floor hpos p, row_eq_floor (by omega) p⟩, ?_,
    fun place => Picture.getElem_colours cells place.val place.isLt⟩
  · rw [plane_eq, hcells]
    rfl
  · exact fun p hp => within_of_mem_plane hpos hcells hp
  · intro column row hcolumn
    rw [column_point hwidth, row_point hheight, mod_place hcolumn, div_place hcolumn]
    exact ⟨rfl, rfl⟩

/-- A frame of two rows with lit pixels at both ends of the first and at the end of the second. -/
def lit : List Byte := [1, 0, 1, 0, 0, 1]

theorem planes_tile_canvas_atTwoRows :
    (2 ≤ 3 ∧ 2 ≤ 2 ∧ lit.length = (⟨3, 2⟩ : Resolution).pixelCount ∧ ∀ c ∈ lit, c = 0 ∨ c = 1) ∧
      (⟨3, 2⟩ : Resolution).plane lit 1 = [(0, 0), (2, 0), (2, -1)] ∧
      (⟨3, 2⟩ : Resolution).Within (2, -1) ∧ (2, -1) ∉ (⟨3, 2⟩ : Resolution).plane lit 0 ∧
      (⟨3, 2⟩ : Resolution).column (2, -1) = 2 ∧ (⟨3, 2⟩ : Resolution).row (2, -1) = 1 := by
  have hvalues : ∀ c ∈ lit, c = 0 ∨ c = 1 := by decide
  obtain ⟨hplanes, -, hshared, -, hgrid, -⟩ :=
    @planes_tile_canvas ⟨3, 2⟩ lit (by decide) (by decide) (by decide)
  have hplane : (⟨3, 2⟩ : Resolution).plane lit 1 = [(0, 0), (2, 0), (2, -1)] := by decide
  have hmem : (2, -1) ∈ (⟨3, 2⟩ : Resolution).plane lit 1 := by rw [hplane]; decide
  have hwithin := (hplanes 1).2.2.2 (2, -1) hmem
  refine ⟨⟨by decide, by decide, by decide, hvalues⟩, hplane, hwithin, ?_, hgrid 2 1 (by decide)⟩
  rcases ((hshared hvalues).2 (2, -1)).mp hwithin with ⟨-, hother⟩ | ⟨-, hother⟩
  · exact absurd hmem hother
  · exact hother

end Resolution

end Chip8
