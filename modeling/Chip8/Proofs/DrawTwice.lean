import Chip8.Proofs.SpriteInstruction

/-!
# Drawing a sprite twice

A drawing writes to the screen and to the flag register alone. If the position of the sprite comes from
other registers, a second drawing of the same instruction therefore turns over the same pixels, which
puts the screen back. Each of these pixels is lit before exactly one of the two drawings, so one of them
reports a collision unless the sprite has no set bit over the screen.
-/

namespace Chip8.Machine

open Framebuffer (Position)

/-- A bit of the sprite that the drawing instruction reads, given by its row and by its column from the
left, is set and comes to lie over a pixel of the screen. -/
def BitOver (m : Machine) (x y rows : Nibble) (row column : Nat) (p : Position) : Prop :=
  (row < min rows.val (0xFFF - m.i.toNat) ∧ column < 8 ∧
    (m.memory.byteAt (m.i.toNat + row)).getMsbD column = true) ∧
  p.1.val = (m.register x).toNat % 64 + column ∧ p.2.val = (m.register y).toNat % 32 + row

instance (m : Machine) (x y rows : Nibble) (row column : Nat) :
    DecidablePred (m.BitOver x y rows row column) := fun _ =>
  inferInstanceAs (Decidable ((_ ∧ _ ∧ _) ∧ _ ∧ _))

/-- The two machines hold the same position and the same sprite for the drawing instruction. -/
structure SameSprite (m m' : Machine) (x y : Nibble) : Prop where
  x : m'.register x = m.register x
  y : m'.register y = m.register y
  index : m'.i = m.i
  memory : m'.memory = m.memory

/-- What a machine, the one after a first drawing and the one after a second drawing have to do with
each other: the screen is as before, and the collisions of the two drawings are told by the bits of the
sprite and the screen before them. -/
structure DrawnTwice (m : Machine) (x y rows : Nibble) (once twice : Machine) : Prop where
  restored : twice.screen = m.screen
  second : twice.register flag = 1 ↔
    ∃ row column p, m.BitOver x y rows row column p ∧ m.screen.pixel p = false
  either : once.register flag = 1 ∨ twice.register flag = 1 ↔
    ∃ row column p, m.BitOver x y rows row column p
  blank : m.screen = Framebuffer.blank → once.register flag = 0

/-- The pixels that are turned over are those under the set bits of the sprite. -/
theorem flips_iff_bitOver {m : Machine} {x y rows : Nibble} {p : Position} :
    m.Flips x y rows p ↔ ∃ row column, m.BitOver x y rows row column p := by
  have hcolumn := p.1.isLt
  have hline := p.2.isLt
  constructor
  · rintro ⟨hcolumns, hlines, hbit⟩
    refine ⟨_, _, ⟨?_, ?_, ?_⟩, (Nat.add_sub_of_le hcolumns.1).symm,
      (Nat.add_sub_of_le hlines.1).symm⟩
    · omega
    · omega
    · rw [BitVec.getMsbD_eq_getLsbD, Bool.and_eq_true, decide_eq_true_eq]
      exact ⟨by omega, hbit⟩
  · rintro ⟨row, column, ⟨hrow, hwidth, hbit⟩, hx, hy⟩
    rw [BitVec.getMsbD_eq_getLsbD, Bool.and_eq_true] at hbit
    refine ⟨⟨by omega, by omega⟩, ⟨by omega, by omega⟩, ?_⟩
    rw [hx, hy, Nat.add_sub_cancel_left, Nat.add_sub_cancel_left]
    exact hbit.2

theorem exists_flips_iff {m : Machine} {x y rows : Nibble} {P : Position → Prop} :
    (∃ p, m.Flips x y rows p ∧ P p) ↔ ∃ row column p, m.BitOver x y rows row column p ∧ P p := by
  constructor
  · rintro ⟨p, hp, hholds⟩
    obtain ⟨row, column, hover⟩ := flips_iff_bitOver.mp hp
    exact ⟨row, column, p, hover, hholds⟩
  · rintro ⟨row, column, p, hover, hholds⟩
    exact ⟨p, flips_iff_bitOver.mpr ⟨row, column, hover⟩, hholds⟩

theorem SameSprite.flips_iff {m m' : Machine} {x y : Nibble} (h : m.SameSprite m' x y)
    (rows : Nibble) (p : Position) : m'.Flips x y rows p ↔ m.Flips x y rows p := by
  simp only [Flips, h.x, h.y, h.index, h.memory]

theorem SameSprite.trans {m m' m'' : Machine} {x y : Nibble} (h : m.SameSprite m' x y)
    (h' : m'.SameSprite m'' x y) : m.SameSprite m'' x y where
  x := h'.x.trans h.x
  y := h'.y.trans h.y
  index := h'.index.trans h.index
  memory := h'.memory.trans h.memory

/-- A drawing writes to the flag register, which is no part of the next one's sprite if it gives no
coordinate. -/
theorem Drawn.sameSprite {m once : Machine} {x y rows : Nibble} (h : m.Drawn x y rows once)
    (hx : x ≠ flag) (hy : y ≠ flag) : m.SameSprite once x y where
  x := h.registers x hx
  y := h.registers y hy
  index := h.index
  memory := h.memory

/-- A step that carries out the drawing instruction draws. -/
theorem CarriesOut.drawn {m : Machine} {now : Instant} {x y rows : Nibble}
    (h : m.CarriesOut now (.draw x y rows)) : m.Drawn x y rows (m.step now).machine := by
  have hdrawn := m.advance.drawn_execute m.pc x y rows
  rw [h.machine_step]
  exact ⟨hdrawn.pixel, hdrawn.collided, hdrawn.clear, hdrawn.registers, hdrawn.index,
    hdrawn.memory, hdrawn.stack⟩

theorem Drawn.pixel_of_flips {m once : Machine} {x y rows : Nibble} (h : m.Drawn x y rows once)
    {p : Position} (hp : m.Flips x y rows p) : once.screen.pixel p = !m.screen.pixel p :=
  Bool.eq_not.mpr ((h.pixel p).mpr hp)

theorem Drawn.pixel_of_not_flips {m once : Machine} {x y rows : Nibble} (h : m.Drawn x y rows once)
    {p : Position} (hp : ¬ m.Flips x y rows p) : once.screen.pixel p = m.screen.pixel p :=
  not_not.mp (mt (h.pixel p).mp hp)

theorem Drawn.register_flag_eq_one_iff {m once : Machine} {x y rows : Nibble}
    (h : m.Drawn x y rows once) :
    once.register flag = 1 ↔ ∃ p, m.Flips x y rows p ∧ m.screen.pixel p = true := by
  constructor
  · intro hflag
    by_contra hnone
    have hdark : ∀ p, m.Flips x y rows p → m.screen.pixel p = false := by
      intro p hp
      exact Bool.eq_false_iff.mpr fun hlit => hnone ⟨p, hp, hlit⟩
    rw [h.clear hdark] at hflag
    exact absurd hflag (by decide)
  · exact h.collided

/-- A second drawing of the same sprite, on the screen that the first one has left, undoes it. -/
theorem Drawn.twice {m once m' twice : Machine} {x y rows : Nibble} (hfirst : m.Drawn x y rows once)
    (hsprite : m.SameSprite m' x y) (hscreen : m'.screen = once.screen)
    (hsecond : m'.Drawn x y rows twice) : m.DrawnTwice x y rows once twice := by
  have hflips := hsprite.flips_iff rows
  have hflag : twice.register flag = 1 ↔ ∃ p, m.Flips x y rows p ∧ m.screen.pixel p = false := by
    rw [hsecond.register_flag_eq_one_iff]
    refine exists_congr fun p => ?_
    rw [hflips]
    refine and_congr_right fun hp => ?_
    -- The first drawing has turned this pixel over.
    rw [hscreen, hfirst.pixel_of_flips hp, Bool.not_eq_true']
  constructor
  case restored =>
    apply Framebuffer.ext_pixel
    intro p
    by_cases hp : m.Flips x y rows p
    · calc
        twice.screen.pixel p = !m'.screen.pixel p :=
          hsecond.pixel_of_flips ((hflips p).mpr hp)
        _ = !!m.screen.pixel p := by rw [hscreen, hfirst.pixel_of_flips hp]
        _ = m.screen.pixel p := Bool.not_not _
    · calc
        twice.screen.pixel p = m'.screen.pixel p :=
          hsecond.pixel_of_not_flips (mt (hflips p).mp hp)
        _ = m.screen.pixel p := by rw [hscreen, hfirst.pixel_of_not_flips hp]
  case second => rw [hflag, exists_flips_iff]
  case either =>
    rw [hfirst.register_flag_eq_one_iff, hflag]
    constructor
    · rintro (⟨p, hp, -⟩ | ⟨p, hp, -⟩)
      all_goals
        obtain ⟨row, column, hover⟩ := flips_iff_bitOver.mp hp
        exact ⟨row, column, p, hover⟩
    · rintro ⟨row, column, p, hover⟩
      have hp := flips_iff_bitOver.mpr ⟨row, column, hover⟩
      cases hpixel : m.screen.pixel p with
      | true => exact .inl ⟨p, hp, hpixel⟩
      | false => exact .inr ⟨p, hp, hpixel⟩
  case blank =>
    intro hblank
    apply hfirst.clear
    intro p _
    rw [hblank, Framebuffer.pixel_blank]

/-- Drawing a sprite whose position comes from registers other than the flag register, and drawing it
once more while position, sprite and screen are as the first drawing has left them. Every pixel is then
as before the first. The second drawing collides if and only if a set bit of the sprite lies over a
pixel that was dark at first; one of the two collides if and only if a set bit lies over the screen at
all; and the first does not collide on a dark screen. So do two steps that carry out the instruction. -/
theorem draw_twice_restores (m : Machine) {x y : Nibble} (rows : Nibble) (hx : x ≠ flag)
    (hy : y ≠ flag) :
    (∀ address,
      let once := (m.execute address (.draw x y rows)).machine
      m.SameSprite once x y ∧
        ∀ m' next, once.SameSprite m' x y → m'.screen = once.screen →
          m.DrawnTwice x y rows once (m'.execute next (.draw x y rows)).machine) ∧
    ∀ now, m.CarriesOut now (.draw x y rows) →
      let once := (m.step now).machine
      m.SameSprite once x y ∧
        ∀ m' later, once.SameSprite m' x y → m'.screen = once.screen →
          m'.CarriesOut later (.draw x y rows) →
            m.DrawnTwice x y rows once (m'.step later).machine := by
  constructor
  · intro address once
    have hfirst : m.Drawn x y rows once := m.drawn_execute address x y rows
    have hkept := hfirst.sameSprite hx hy
    refine ⟨hkept, fun m' next hsprite hscreen => ?_⟩
    exact hfirst.twice (hkept.trans hsprite) hscreen (m'.drawn_execute next x y rows)
  · intro now hcarries once
    have hfirst : m.Drawn x y rows once := hcarries.drawn
    have hkept := hfirst.sameSprite hx hy
    refine ⟨hkept, fun m' later hsprite hscreen hagain => ?_⟩
    exact hfirst.twice (hkept.trans hsprite) hscreen hagain.drawn

/-- A machine that is about to draw the two bytes of its first instruction twice, over the right edge of
the screen. One of the pixels that they come to lie over is lit. -/
def atTwoDrawings : Machine :=
  { holding [0xD0, 0x12, 0xD0, 0x12] with
    v := Table.const 61
    i := 0x200
    screen := (Framebuffer.blank.blit 61 61 [0x80]).1 }

theorem draw_twice_restores_atTwoDrawings :
    let once := (atTwoDrawings.step 0).machine
    let twice := (once.step 1).machine
    ((0 : Nibble) ≠ flag ∧ (1 : Nibble) ≠ flag) ∧
      (atTwoDrawings.CarriesOut 0 (.draw 0 1 2) ∧ once.CarriesOut 1 (.draw 0 1 2)) ∧
      twice.screen = atTwoDrawings.screen ∧ twice.register flag = 1 := by
  intro once twice
  have hfirst : atTwoDrawings.CarriesOut 0 (.draw 0 1 2) :=
    carriesOut_of_isOk (by decide +kernel) (by decide +kernel) rfl 0
  have hsecond : once.CarriesOut 1 (.draw 0 1 2) :=
    carriesOut_of_isOk (by decide +kernel) (by decide +kernel) rfl 1
  have hregisters : (0 : Nibble) ≠ flag ∧ (1 : Nibble) ≠ flag := by decide
  obtain ⟨-, hsteps⟩ := draw_twice_restores atTwoDrawings 2 hregisters.1 hregisters.2
  obtain ⟨-, htwice⟩ := hsteps 0 hfirst
  have hdrawn : atTwoDrawings.DrawnTwice 0 1 2 once twice :=
    htwice once 1 ⟨rfl, rfl, rfl, rfl⟩ rfl hsecond
  -- The second bit of the first row lies over a pixel that is dark at first.
  have hdark : atTwoDrawings.BitOver 0 1 2 0 1 (62, 29) ∧
      atTwoDrawings.screen.pixel (62, 29) = false := by
    decide +kernel
  exact ⟨hregisters, ⟨hfirst, hsecond⟩, hdrawn.restored, hdrawn.second.mpr ⟨0, 1, (62, 29), hdark⟩⟩

/-- Where the flag register gives a coordinate, the second drawing goes elsewhere. -/
example :
    let m := { holding [0xDF, 0x11, 0xDF, 0x11] with v := Table.const 60, i := 0x201 }
    let twice := ((m.step 0).machine.step 1).machine
    Instruction.decode? m.fetched = some (.draw flag 1 1) ∧
      m.screen.pixel (63, 28) = false ∧ twice.screen.pixel (63, 28) = true := by
  decide +kernel

end Chip8.Machine
