import Mathlib.Algebra.Ring.Parity
import Mathlib.Data.List.Induction
import Mathlib.Data.List.Nodup
import Chip8.Framebuffer

/-!
# What drawing leaves on the screen

A sprite covers the pixels under its set bits. Drawing it flips each pixel that it covers
once and no other, so that after any number of drawings a pixel is lit if it has been
covered an odd number of times since the screen was cleared. The order of these drawings
does not matter.
-/

namespace Chip8

/-- A sprite and the position that it is drawn at. -/
structure Sprite where
  x : Byte
  y : Byte
  rows : List Byte
  deriving DecidableEq

/-- A sprite covers the pixels under its set bits. Its corner is taken modulo the size of the
screen; a bit past the right or the bottom edge from there is over no pixel. -/
def Sprite.Covers (s : Sprite) (p : Framebuffer.Position) : Prop :=
  (s.x.toNat % 64 ≤ p.1.val ∧ p.1.val ≤ s.x.toNat % 64 + 7) ∧
    (s.y.toNat % 32 ≤ p.2.val ∧ p.2.val < s.y.toNat % 32 + s.rows.length) ∧
    (s.rows.getD (p.2.val - s.y.toNat % 32) 0).getLsbD (7 - (p.1.val - s.x.toNat % 64)) = true

instance (s : Sprite) : DecidablePred s.Covers := fun _ =>
  inferInstanceAs (Decidable ((_ ∧ _) ∧ (_ ∧ _) ∧ _))

/-- Something done to the screen. -/
inductive Drawing where
  /-- Turn every pixel dark. -/
  | clear
  /-- Draw a sprite. -/
  | sprite (s : Sprite)
  deriving DecidableEq

/-- The sprites drawn since the screen was last cleared, in order. -/
def Drawing.sinceClear (drawings : List Drawing) : List Sprite :=
  drawings.foldl (fun sprites drawing =>
    match drawing with
    | .clear => []
    | .sprite s => sprites ++ [s]) []

namespace Framebuffer

/-- The screen after something is done to it. -/
def draw (f : Framebuffer) : Drawing → Framebuffer
  | .clear => f.clear
  | .sprite s => (f.blit s.x s.y s.rows).1

/-- The screen after a list of drawings, in order. -/
def drawAll (f : Framebuffer) (drawings : List Drawing) : Framebuffer := drawings.foldl draw f

/-! ## The pixels that a sprite covers -/

/-- The pixel under a bit of a row is in the column of the bit, if the bit is set and on the screen. -/
theorem bitPixel_eq_some_iff {x k : Nat} {y : Fin 32} {row : Byte} {p : Position} :
    (if h : x + k < 64 then if row.getMsbD k then some ((⟨x + k, h⟩, y) : Position) else none
      else none) = some p ↔ p.2 = y ∧ p.1.val = x + k ∧ row.getMsbD k = true := by
  constructor
  · intro hpixel
    split at hpixel
    next hx =>
      split at hpixel
      next hbit =>
        obtain rfl := Option.some.inj hpixel
        exact ⟨rfl, rfl, hbit⟩
      next => cases hpixel
    next => cases hpixel
  · rintro ⟨rfl, hcolumn, hbit⟩
    rw [dif_pos (by omega), if_pos hbit]
    congr 1
    exact Prod.ext (Fin.ext hcolumn.symm) rfl

theorem mem_rowPixels {x : Nat} {y : Fin 32} {row : Byte} {p : Position} :
    p ∈ rowPixels x y row ↔
      p.2 = y ∧ (x ≤ p.1.val ∧ p.1.val ≤ x + 7) ∧ row.getLsbD (7 - (p.1.val - x)) = true := by
  simp only [rowPixels, List.mem_filterMap, List.mem_range, bitPixel_eq_some_iff]
  simp only [BitVec.getMsbD_eq_getLsbD, Bool.and_eq_true, decide_eq_true_eq]
  constructor
  · rintro ⟨k, hk, hrow, hcolumn, -, hbit⟩
    rw [show 7 - (p.1.val - x) = 8 - 1 - k by omega]
    exact ⟨hrow, ⟨by omega, by omega⟩, hbit⟩
  · rintro ⟨hrow, ⟨hlow, hhigh⟩, hbit⟩
    exact ⟨p.1.val - x, by omega, hrow, by omega, by omega, hbit⟩

theorem nodup_rowPixels (x : Nat) (y : Fin 32) (row : Byte) : (rowPixels x y row).Nodup := by
  refine List.Nodup.filterMap ?_ List.nodup_range
  intro k j p hk hj
  have hcolumn := (bitPixel_eq_some_iff.mp hk).2.1
  have hother := (bitPixel_eq_some_iff.mp hj).2.1
  omega

theorem mem_rowsPixels {x y : Nat} {rows : List Byte} {p : Position} :
    p ∈ rowsPixels x y rows ↔
      (x ≤ p.1.val ∧ p.1.val ≤ x + 7) ∧ (y ≤ p.2.val ∧ p.2.val < y + rows.length) ∧
        (rows.getD (p.2.val - y) 0).getLsbD (7 - (p.1.val - x)) = true := by
  induction rows generalizing y with
  | nil =>
      simp only [rowsPixels, List.not_mem_nil, List.length_nil, false_iff]
      omega
  | cons row rest ih =>
      have hline := p.2.isLt
      have hfirst : p ∈ (if h : y < 32 then rowPixels x ⟨y, h⟩ row else []) ↔
          p.2.val = y ∧ (x ≤ p.1.val ∧ p.1.val ≤ x + 7) ∧
            row.getLsbD (7 - (p.1.val - x)) = true := by
        split
        · rw [mem_rowPixels, Fin.ext_iff]
        · simp only [List.not_mem_nil, false_iff]
          omega
      rw [rowsPixels, List.mem_append, ih, hfirst, List.length_cons]
      by_cases hrow : p.2.val = y
      · -- The first row has the pixels of its own line alone.
        simp only [hrow, Nat.sub_self, List.getD_cons_zero]
        constructor
        · rintro (⟨-, hcolumns, hbit⟩ | ⟨-, hrows, -⟩)
          · exact ⟨hcolumns, by omega, hbit⟩
          · omega
        · rintro ⟨hcolumns, -, hbit⟩
          exact .inl ⟨trivial, hcolumns, hbit⟩
      · by_cases hbelow : y + 1 ≤ p.2.val
        · rw [show p.2.val - y = p.2.val - (y + 1) + 1 by omega, List.getD_cons_succ]
          constructor
          · rintro (⟨hsame, -, -⟩ | ⟨hcolumns, hrows, hbit⟩)
            · exact absurd hsame hrow
            · exact ⟨hcolumns, by omega, hbit⟩
          · rintro ⟨hcolumns, hrows, hbit⟩
            exact .inr ⟨hcolumns, by omega, hbit⟩
        · constructor
          · rintro (⟨hsame, -, -⟩ | ⟨-, hrows, -⟩) <;> omega
          · rintro ⟨-, hrows, -⟩
            omega

theorem nodup_rowsPixels (x y : Nat) (rows : List Byte) : (rowsPixels x y rows).Nodup := by
  induction rows generalizing y with
  | nil => exact List.nodup_nil
  | cons row rest ih =>
      rw [rowsPixels]
      split
      next hy =>
        refine (nodup_rowPixels x ⟨y, hy⟩ row).append (ih (y + 1)) ?_
        -- Rows further down have their pixels further down.
        intro p hfirst hrest
        have hline := (mem_rowPixels.mp hfirst).1
        have hlower := (mem_rowsPixels.mp hrest).2.1.1
        rw [hline] at hlower
        simp only at hlower
        omega
      next => exact ih (y + 1)

theorem mem_spritePixels {s : Sprite} {p : Position} :
    p ∈ spritePixels s.x s.y s.rows ↔ s.Covers p :=
  mem_rowsPixels

theorem nodup_spritePixels (s : Sprite) : (spritePixels s.x s.y s.rows).Nodup :=
  nodup_rowsPixels _ _ _

theorem count_spritePixels (s : Sprite) (p : Position) :
    (spritePixels s.x s.y s.rows).count p = if s.Covers p then 1 else 0 := by
  by_cases hp : s.Covers p
  · rw [if_pos hp, List.count_eq_one_of_mem (nodup_spritePixels s) (mem_spritePixels.mpr hp)]
  · rw [if_neg hp, List.count_eq_zero_of_not_mem fun h => hp (mem_spritePixels.mp h)]

/-! ## One drawing -/

/-- Drawing a sprite flips the pixels that it covers and no other. -/
theorem pixel_blit_eq (f : Framebuffer) (s : Sprite) (p : Position) :
    (f.blit s.x s.y s.rows).1.pixel p = (f.pixel p ^^ decide (s.Covers p)) := by
  rw [pixel_blit, count_spritePixels]
  by_cases hp : s.Covers p <;> simp [hp]

/-- Plotting pixels, none of them twice, notes whether one of them was lit before. -/
theorem foldl_plot_snd (f : Framebuffer) (collided : Bool) {ps : List Position}
    (hps : ps.Nodup) :
    (ps.foldl plot (f, collided)).2 = true ↔ collided = true ∨ ∃ p ∈ ps, f.pixel p = true := by
  induction ps generalizing f collided with
  | nil => simp
  | cons p rest ih =>
      obtain ⟨hp, hrest⟩ := List.nodup_cons.mp hps
      have hkept : ∀ q ∈ rest, (f.flip p).pixel q = f.pixel q := by
        intro q hq
        rw [pixel_flip, if_neg]
        rintro rfl
        exact hp hq
      simp only [List.foldl_cons, plot, ih _ _ hrest, Bool.or_eq_true, List.mem_cons,
        exists_eq_or_imp, or_assoc]
      refine or_congr_right (or_congr_right ?_)
      exact exists_congr fun q => and_congr_right fun hq => by rw [hkept q hq]

/-- Drawing a sprite reports a collision exactly when a pixel that it covers was lit. -/
theorem blit_collides_iff (f : Framebuffer) (s : Sprite) :
    (f.blit s.x s.y s.rows).2 = true ↔ ∃ p, s.Covers p ∧ f.pixel p = true := by
  rw [blit, foldl_plot_snd f false (nodup_spritePixels s)]
  simp only [Bool.false_eq_true, false_or]
  exact exists_congr fun p => and_congr_left' mem_spritePixels

/-! ## Any number of drawings -/

/-- The screen after a list of sprites, in order. -/
def drawSprites (f : Framebuffer) (sprites : List Sprite) : Framebuffer :=
  f.drawAll (sprites.map .sprite)

theorem drawSprites_append (f : Framebuffer) (sprites more : List Sprite) :
    f.drawSprites (sprites ++ more) = (f.drawSprites sprites).drawSprites more := by
  simp only [drawSprites, drawAll, List.map_append, List.foldl_append]

/-- Each of the sprites that cover a pixel flips it. -/
theorem pixel_drawSprites (f : Framebuffer) (sprites : List Sprite) (p : Position) :
    (f.drawSprites sprites).pixel p =
      (f.pixel p ^^ decide (Odd (sprites.countP fun s => decide (s.Covers p)))) := by
  induction sprites generalizing f with
  | nil => simp [drawSprites, drawAll]
  | cons s rest ih =>
      change ((f.blit s.x s.y s.rows).1.drawSprites rest).pixel p = _
      rw [ih, pixel_blit_eq, Bool.xor_assoc, List.countP_cons]
      by_cases hp : s.Covers p
      · simp only [hp, decide_true, if_true, Nat.odd_add_one, decide_not, Bool.true_xor]
      · simp only [hp, decide_false, Bool.false_eq_true, if_false, Nat.add_zero,
          Bool.false_xor]

/-- The order in which sprites are drawn does not show. -/
theorem drawSprites_perm (f : Framebuffer) {sprites others : List Sprite}
    (h : sprites.Perm others) : f.drawSprites sprites = f.drawSprites others := by
  apply ext_pixel
  intro p
  rw [pixel_drawSprites, pixel_drawSprites, h.countP_eq]

/-- What was done to a dark screen before it was last cleared does not show either. -/
theorem drawAll_blank (drawings : List Drawing) :
    blank.drawAll drawings = blank.drawSprites (Drawing.sinceClear drawings) := by
  induction drawings using List.reverseRecOn with
  | nil => rfl
  | append_singleton drawings drawing ih =>
      simp only [drawAll, Drawing.sinceClear, List.foldl_append, List.foldl_cons, List.foldl_nil]
        at ih ⊢
      cases drawing with
      | clear => exact clear_eq_blank _
      | sprite s =>
          rw [drawSprites_append, ← ih]
          rfl

/-- After any list of drawings on a dark screen a pixel is lit if and only if it is covered by an odd
number of the sprites drawn since the screen was last cleared; a sprite drawn then collides if and
only if it covers a lit pixel; and the order of the sprites drawn since the screen was last cleared
does not show. -/
theorem lit_iff_odd_covers (drawings : List Drawing) :
    (∀ p, (blank.drawAll drawings).pixel p = true ↔
      Odd ((Drawing.sinceClear drawings).countP fun s => decide (s.Covers p))) ∧
    (∀ s : Sprite, ((blank.drawAll drawings).blit s.x s.y s.rows).2 = true ↔
      ∃ p, s.Covers p ∧ (blank.drawAll drawings).pixel p = true) ∧
    ∀ others, (Drawing.sinceClear drawings).Perm (Drawing.sinceClear others) →
      blank.drawAll drawings = blank.drawAll others := by
  refine ⟨?_, ?_, ?_⟩
  · intro p
    rw [drawAll_blank, pixel_drawSprites, pixel_blank, Bool.false_xor, decide_eq_true_iff]
  · intro s
    exact blit_collides_iff _ s
  · intro others hperm
    rw [drawAll_blank, drawAll_blank, drawSprites_perm blank hperm]

/-- A sprite that both edges of the screen cut off. -/
def atCorner : Sprite := ⟨60, 30, [0xFF, 0xFF, 0xFF]⟩

/-- A sprite over two pixels of that one, drawn from a position off the screen. -/
def overCorner : Sprite := ⟨126, 63, [0xC0]⟩

theorem lit_iff_odd_covers_atCorner :
    let drawings := [.sprite overCorner, .clear, .sprite atCorner, .sprite overCorner]
    (Drawing.sinceClear drawings).Perm [overCorner, atCorner] ∧
      blank.drawAll drawings = blank.drawAll [.sprite overCorner, .sprite atCorner] ∧
      (blank.drawAll drawings).pixel (61, 31) = true ∧
      (blank.drawAll drawings).pixel (62, 31) = false := by
  intro drawings
  obtain ⟨hlit, -, horder⟩ := lit_iff_odd_covers drawings
  have hperm : (Drawing.sinceClear drawings).Perm [overCorner, atCorner] := .swap ..
  refine ⟨hperm, horder [.sprite overCorner, .sprite atCorner] hperm, ?_, ?_⟩
  · exact (hlit (61, 31)).mpr (by decide)
  · exact Bool.eq_false_iff.mpr fun h => absurd ((hlit (62, 31)).mp h) (by decide)

end Framebuffer

end Chip8
