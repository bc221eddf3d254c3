import Chip8.Proofs.Drawing
import Chip8.Proofs.LastWriter

/-!
# What the drawing instruction changes

The drawing instruction takes the position of its sprite from two registers and the rows from memory.
The sprite ends where memory ends, and what lies past the right or the bottom edge of the screen is
cut off. `Flips` says of every pixel whether it is turned over, by the state before the instruction:
the flag register may be one of the two that hold the position, and is only written at the end.
-/

namespace Chip8.Machine

open Framebuffer (Position)

/-- The drawing instruction turns a pixel over. The corner of the sprite is taken modulo the size of
the screen, and each row is a byte of memory below the limit. -/
def Flips (m : Machine) (x y rows : Nibble) (p : Position) : Prop :=
  let left := (m.register x).toNat % 64
  let top := (m.register y).toNat % 32
  let height := min rows.val (0xFFF - m.i.toNat)
  (left ≤ p.1.val ∧ p.1.val ≤ min (left + 7) 63) ∧
    (top ≤ p.2.val ∧ p.2.val < min (top + height) 32) ∧
    (m.memory.byteAt (m.i.toNat + (p.2.val - top))).getLsbD (7 - (p.1.val - left)) = true

/-- The second machine is the first with a sprite drawn: its pixels have been turned over, the flag
register tells whether one of them was lit before, and the other registers, the index register, memory
and the call stack are the same. -/
structure Drawn (m : Machine) (x y rows : Nibble) (m' : Machine) : Prop where
  pixel : ∀ p, m'.screen.pixel p ≠ m.screen.pixel p ↔ m.Flips x y rows p
  collided : (∃ p, m.Flips x y rows p ∧ m.screen.pixel p = true) → m'.register flag = 1
  clear : (∀ p, m.Flips x y rows p → m.screen.pixel p = false) → m'.register flag = 0
  registers : ∀ r, r ≠ flag → m'.register r = m.register r
  index : m'.i = m.i
  memory : m'.memory = m.memory
  stack : m'.stack = m.stack

/-- The sprite that the drawing instruction draws. -/
def sprite (m : Machine) (x y rows : Nibble) : Sprite :=
  ⟨m.register x, m.register y, m.memory.slice m.i rows.val⟩

theorem getD_slice (m : Memory) (addr : Word) {len k : Nat} (hk : k < min len (0xFFF - addr.toNat)) :
    (m.slice addr len).getD k 0 = m.byteAt (addr.toNat + k) := by
  rw [slice_eq, List.getD_eq_getElem?_getD, List.getElem?_map, List.getElem?_range hk]
  rfl

/-- The instruction turns over the pixels that its sprite covers. -/
theorem covers_sprite_iff (m : Machine) (x y rows : Nibble) (p : Position) :
    (m.sprite x y rows).Covers p ↔ m.Flips x y rows p := by
  have hlength : (m.memory.slice m.i rows.val).length = min rows.val (0xFFF - m.i.toNat) :=
    (Memory.length_slice ..).trans (Memory.room_eq ..)
  have hcolumn := p.1.isLt
  have hline := p.2.isLt
  simp only [Sprite.Covers, Flips, sprite, hlength]
  -- The edges of the screen bind no pixel, and the rows that are read end where memory does.
  refine and_congr (by omega) ?_
  constructor
  · rintro ⟨hlines, hbit⟩
    rw [getD_slice m.memory m.i (Nat.sub_lt_left_of_lt_add hlines.1 hlines.2)] at hbit
    exact ⟨⟨hlines.1, by omega⟩, hbit⟩
  · rintro ⟨⟨hlow, hhigh⟩, hbit⟩
    have hread : p.2.val < (m.register y).toNat % 32 + min rows.val (0xFFF - m.i.toNat) := by
      omega
    refine ⟨⟨hlow, hread⟩, ?_⟩
    rw [getD_slice m.memory m.i (Nat.sub_lt_left_of_lt_add hlow hread)]
    exact hbit

theorem execute_draw (m : Machine) (address : Word) (x y rows : Nibble) :
    let sprite := m.sprite x y rows
    let drawn := m.screen.blit sprite.x sprite.y sprite.rows
    m.execute address (.draw x y rows) =
      ⟨{ m with screen := drawn.1 }.setRegister flag (if drawn.2 then 1 else 0), .ok true, []⟩ :=
  rfl

theorem drawn_execute (m : Machine) (address : Word) (x y rows : Nibble) :
    m.Drawn x y rows (m.execute address (.draw x y rows)).machine := by
  have hscreen := Framebuffer.pixel_blit_eq m.screen (m.sprite x y rows)
  have hcollision := Framebuffer.blit_collides_iff m.screen (m.sprite x y rows)
  simp only [covers_sprite_iff] at hcollision
  rw [execute_draw]
  constructor
  case pixel =>
    intro p
    rw [← covers_sprite_iff]
    change (m.screen.blit _ _ _).1.pixel p ≠ _ ↔ _
    rw [hscreen p]
    by_cases hp : (m.sprite x y rows).Covers p <;> simp [hp]
  case collided =>
    intro hlit
    rw [register_setRegister_self]
    exact if_pos (hcollision.mpr hlit)
  case clear =>
    intro hdark
    rw [register_setRegister_self]
    apply if_neg
    intro hcollided
    obtain ⟨p, hp, hlit⟩ := hcollision.mp hcollided
    exact absurd ((hdark p hp).symm.trans hlit) Bool.false_ne_true
  case registers =>
    intro r hr
    exact (register_setRegister ..).trans (if_neg hr.symm)
  case index => rfl
  case memory => rfl
  case stack => rfl

/-- Drawing a sprite, whatever the registers and the index register hold and whichever registers the
position comes from. The instruction turns over exactly the pixels under the set bits of the sprite
that lie on the screen, tells in the flag register whether one of them was lit, and changes no other
register, nor the index register, memory or the call stack. So does every step of a machine that
finds the instruction at its program counter; the step goes well and asks for a frame. -/
theorem draw_flips_and_collides (m : Machine) (x y rows : Nibble) :
    (∀ address, (m.execute address (.draw x y rows)).answer = .ok true ∧
      m.Drawn x y rows (m.execute address (.draw x y rows)).machine) ∧
    (m.pc.toNat < 0xFFE → Instruction.decode? m.fetched = some (.draw x y rows) →
      ∀ now, ∃ status, (m.step now).answer = .ok status ∧ status.redraw = true ∧
        m.Drawn x y rows (m.step now).machine) := by
  constructor
  · intro address
    exact ⟨rfl, m.drawn_execute address x y rows⟩
  · intro hpc hword now
    have hcarries : m.CarriesOut now (.draw x y rows) := carriesOut_of_isOk hpc hword rfl now
    have hdrawn := m.advance.drawn_execute m.pc x y rows
    refine ⟨((m.advance.execute m.pc (.draw x y rows)).machine.settle now true).2, ?_, rfl, ?_⟩
    · rw [step_of_decode? hpc hword]
      rfl
    · rw [hcarries.machine_step]
      exact ⟨hdrawn.pixel, hdrawn.collided, hdrawn.clear, hdrawn.registers, hdrawn.index,
        hdrawn.memory, hdrawn.stack⟩

/-- A machine that is about to draw four rows from the last two bytes that can be read. The flag
register holds both coordinates, and the sprite is cut off at the right and at the bottom edge. -/
def atLastRows : Machine :=
  let m := holding [0xDF, 0xF4]
  { m.setRegister flag 0xFF with
    i := 0xFFD
    memory := (m.memory.write 0xFFD [0x80, 0xFF]).1 }

theorem draw_flips_and_collides_atLastRows :
    (atLastRows.pc.toNat < 0xFFE ∧
      Instruction.decode? atLastRows.fetched = some (.draw flag flag 4)) ∧
    ∃ status, (atLastRows.step 0).answer = .ok status ∧ status.redraw = true ∧
      atLastRows.Drawn flag flag 4 (atLastRows.step 0).machine := by
  have hpc : atLastRows.pc.toNat < 0xFFE := by decide
  have hword : Instruction.decode? atLastRows.fetched = some (.draw flag flag 4) := by
    decide +kernel
  exact ⟨⟨hpc, hword⟩, (draw_flips_and_collides atLastRows flag flag 4).2 hpc hword 0⟩

end Chip8.Machine
