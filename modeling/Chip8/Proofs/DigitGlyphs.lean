import Chip8.Proofs.DrawTwice
import Chip8.Proofs.StraightLine

/-!
# The digits on the screen

The font lies in memory where a program can write to it. As long as no store goes there, all that
comes to its addresses is the font itself, which a reset puts back: loads begin above it, and a
store that begins above it does not come round to it from the end of memory. The instruction that
points at a digit then finds its glyph, and the drawing instruction shows it.
-/

namespace Chip8

namespace Font

theorem toNat_glyphStart : ∀ digit, (glyphStart digit).toNat = 0x50 + 5 * digit.val := by decide

/-- The bytes of the font are the rows of the glyphs, in order. -/
theorem getD_bytes : ∀ digit : Nibble, ∀ row < 5,
    bytes.getD (5 * digit.val + row) 0 = (glyph digit).getD row 0 := by
  decide +kernel

/-- A glyph is four pixels wide. -/
theorem column_lt_four : ∀ digit : Nibble, ∀ row < 5, ∀ column < 8,
    ((glyph digit).getD row 0).getMsbD column = true → column < 4 := by
  decide +kernel

/-- The pixel in the given row and column of a glyph, counted from its top left corner, is lit. -/
def LitAt (digit : Nibble) (row column : Nat) : Prop :=
  row < 5 ∧ column < 4 ∧ ((glyph digit).getD row 0).getMsbD column = true

end Font

namespace Machine

open Framebuffer (Position)

/-- Every store that the steps of a history carry out begins at the given address or past it. -/
def StoresFrom (bottom : Nat) (m : Machine) (ops : List Operation) : Prop :=
  ∀ done now x, done ++ [.step now] <+: ops →
    let before := m.afterAll done
    before.CarriesOut now (.storeDecimal x) ∨ before.CarriesOut now (.storeRegisters x) →
      bottom ≤ before.i.toNat

/-- The screen shows the whole glyph of a digit with its top left corner at the given column and
row, and nothing else, and there has been no collision. -/
structure ShowsGlyph (digit : Nibble) (left top : Nat) (m : Machine) : Prop where
  whole : ∀ row column, Font.LitAt digit row column → left + column < 64 ∧ top + row < 32
  pixel : ∀ p : Position, m.screen.pixel p = true ↔
    ∃ row column, Font.LitAt digit row column ∧ p.1.val = left + column ∧ p.2.val = top + row
  flag : m.register flag = 0

/-! ## Histories that store high up -/

/-- The check that a history stores nothing below the given address: it looks at the instruction
before each step. -/
def storesAbove (bottom : Nat) (m : Machine) : List Operation → Bool
  | [] => true
  | op :: ops =>
    (match op, Instruction.decode? m.fetched with
      | .step _, some (.storeDecimal _) | .step _, some (.storeRegisters _) =>
        decide (bottom ≤ m.i.toNat)
      | _, _ => true) && (m.perform op).machine.storesAbove bottom ops

/-- A history that passes the check is one whose stores begin high enough. -/
theorem storesFrom_of_storesAbove {bottom : Nat} {m : Machine} {ops : List Operation}
    (h : m.storesAbove bottom ops = true) : m.StoresFrom bottom ops := by
  induction ops generalizing m with
  | nil =>
      intro done now x hdone
      exact absurd (List.prefix_nil.mp hdone) (by simp)
  | cons op ops ih =>
      simp only [storesAbove, Bool.and_eq_true] at h
      intro done now x hdone
      cases done with
      | nil =>
          obtain rfl := (List.cons_prefix_cons.mp hdone).1
          have hfirst := h.1
          intro before
          rintro (hcarries | hcarries)
          all_goals
            have hword := (CarriesOut.decode?_fetched (m := m) hcarries).2
            simp only [hword] at hfirst
            exact of_decide_eq_true hfirst
      | cons first done =>
          obtain ⟨rfl, hrest⟩ := List.cons_prefix_cons.mp hdone
          exact ih h.2 done now x hrest

/-! ## The font in memory -/

/-- Below the stores of a history, what is put to memory below the program is what was there at
power-on. -/
theorem byte?_powerOn_of_puts {m : Machine} {ops done : List Operation} {op : Operation}
    {bottom p : Nat} {b : Byte} (hstores : m.StoresFrom bottom ops) (hdone : done ++ [op] <+: ops)
    (hp : p < bottom) (hlow : p < 0x200) (h : (m.afterAll done).Puts op p b) :
    Patch.powerOn.byte? p = some b := by
  have hbelow : ∀ {first bytes}, p < first → Patch.byte? ⟨first, bytes⟩ p ≠ some b := by
    intro first bytes hfirst
    rw [Patch.byte?, if_neg fun hpatch => absurd hpatch.1 (Nat.not_le.mpr hfirst)]
    exact (Option.some_ne_none b).symm
  obtain ⟨patch, hwrites, hbyte⟩ := h
  cases hwrites with
  | reset now => exact hbyte
  | load hsource => exact absurd hbyte (hbelow hlow)
  | @storeRegisters now x hcarries =>
      have hfirst := hstores done now x hdone (.inr hcarries)
      exact absurd hbyte (hbelow (Nat.lt_of_lt_of_le hp hfirst))
  | @storeDecimal now x hcarries =>
      have hfirst := hstores done now x hdone (.inl hcarries)
      exact absurd hbyte (hbelow (Nat.lt_of_lt_of_le hp hfirst))

/-- Below the stores of a history from power-on, and below the program, memory stays as it is at
power-on. -/
theorem byteAt_afterAll_of_storesFrom {keys : Keypad} {random : RandomSource} {now : Instant}
    {ops : List Operation} {bottom p : Nat}
    (hstores : (start keys random now).StoresFrom bottom ops) (hp : p < bottom) (hlow : p < 0x200) :
    ((start keys random now).afterAll ops).memory.byteAt p = Memory.initial.byteAt p := by
  have hlimit : p < 0xFFF := by omega
  have hpowerOn := byte?_powerOn hlimit
  rcases putsLast_or_neverPuts (start keys random now) ops p with
    ⟨b, done, op, rest, rfl, hputs, hrest⟩ | hnever
  · have hdone : done ++ [op] <+: done ++ op :: rest := ⟨rest, by simp⟩
    have hbyte := byte?_powerOn_of_puts hstores hdone hp hlow hputs
    rw [byteAt_afterAll_of_putsLast hlimit (.inl ⟨done, op, rest, rfl, hputs, hrest⟩)]
    exact Option.some.inj (hbyte.symm.trans hpowerOn)
  · exact byteAt_afterAll_of_putsLast hlimit (.inr ⟨hnever, hpowerOn⟩)

theorem byteAt_font_of_storesFrom {keys : Keypad} {random : RandomSource} {now : Instant}
    {ops : List Operation} (hstores : (start keys random now).StoresFrom 0xA0 ops) {k : Nat}
    (hk : k < 80) :
    ((start keys random now).afterAll ops).memory.byteAt (0x50 + k) = Font.bytes.getD k 0 := by
  rw [byteAt_afterAll_of_storesFrom hstores (by omega) (by omega), Memory.byteAt_initial,
    if_pos (by omega), Nat.add_sub_cancel_left]

/-! ## A glyph on the screen -/

/-- A machine that points at a glyph draws its pixels. -/
theorem flips_iff_litAt {m : Machine} {digit x y : Nibble} {p : Position}
    (hindex : m.i = Font.glyphStart digit)
    (hfont : ∀ row < 5, m.memory.byteAt (m.i.toNat + row) = (Font.glyph digit).getD row 0) :
    m.Flips x y 5 p ↔ ∃ row column, Font.LitAt digit row column ∧
      p.1.val = (m.register x).toNat % 64 + column ∧ p.2.val = (m.register y).toNat % 32 + row := by
  have hstart : m.i.toNat = 0x50 + 5 * digit.val := by rw [hindex, Font.toNat_glyphStart]
  have hdigit := digit.isLt
  rw [flips_iff_bitOver]
  refine exists_congr fun row => exists_congr fun column => and_congr_left fun _ => ?_
  have hheight : row < min (5 : Nibble).val (0xFFF - m.i.toNat) ↔ row < 5 := by
    rw [show (5 : Nibble).val = 5 from rfl]
    omega
  rw [hheight, Font.LitAt]
  refine and_congr_right fun hrow => ?_
  rw [hfont row hrow]
  constructor
  · rintro ⟨hcolumn, hbit⟩
    exact ⟨Font.column_lt_four digit row hrow column hcolumn hbit, hbit⟩
  · rintro ⟨hcolumn, hbit⟩
    exact ⟨by omega, hbit⟩

/-- Drawing a glyph on a dark screen shows it, if there is room for it. -/
theorem Drawn.showsGlyph {m drawn : Machine} {digit x y : Nibble} (h : m.Drawn x y 5 drawn)
    (hindex : m.i = Font.glyphStart digit)
    (hfont : ∀ row < 5, m.memory.byteAt (m.i.toNat + row) = (Font.glyph digit).getD row 0)
    (hblank : m.screen = Framebuffer.blank) (hx : (m.register x).toNat % 64 ≤ 60)
    (hy : (m.register y).toNat % 32 ≤ 27) :
    drawn.ShowsGlyph digit ((m.register x).toNat % 64) ((m.register y).toNat % 32) := by
  have hdark : ∀ p, m.screen.pixel p = false := by
    intro p
    rw [hblank, Framebuffer.pixel_blank]
  constructor
  case whole =>
    rintro row column ⟨hrow, hcolumn, -⟩
    omega
  case pixel =>
    intro p
    rw [← flips_iff_litAt hindex hfont, ← h.pixel p, hdark p]
    simp
  case flag => exact h.clear fun p _ => hdark p

/-- The counter and the timers have no part in what is shown. -/
theorem ShowsGlyph.goOn {digit : Nibble} {left top : Nat} {m : Machine}
    (h : m.ShowsGlyph digit left top) (pc : Word) (timers : Timers) :
    { m with pc := pc, timers := timers }.ShowsGlyph digit left top :=
  ⟨h.whole, h.pixel, h.flag⟩

/-- Pointing at a digit and then drawing five rows shows the digit, where the font is in memory. -/
theorem ensures_showsGlyph {m : Machine}
    (hfont : ∀ k < 80, m.memory.byteAt (0x50 + k) = Font.bytes.getD k 0)
    (hblank : m.screen = Framebuffer.blank) (d : Nibble) {x y : Nibble}
    (hx : (m.register x).toNat % 64 ≤ 60) (hy : (m.register y).toNat % 32 ≤ 27) :
    m.Ensures (.pointAtDigit d) fun pointing => ∀ pc timers,
      { pointing with pc := pc, timers := timers }.Ensures (.draw x y 5)
        (ShowsGlyph (m.register d).lowNibble ((m.register x).toNat % 64)
          ((m.register y).toNat % 32)) := by
  refine ensures_of_isStraight rfl fun pc timers => ?_
  generalize hpointing : { (m.execute m.pc (.pointAtDigit d)).machine with
    pc := pc, timers := timers } = pointing
  have hindex : pointing.i = Font.glyphStart (m.register d).lowNibble := by
    rw [← hpointing]
    rfl
  have hmemory : pointing.memory = m.memory := by
    rw [← hpointing]
    rfl
  have hscreen : pointing.screen = m.screen := by
    rw [← hpointing]
    rfl
  have hregister : ∀ r, pointing.register r = m.register r := by
    intro r
    rw [← hpointing]
    rfl
  rw [← hregister x] at hx ⊢
  rw [← hregister y] at hy ⊢
  refine ensures_of_isStraight rfl ?_
  refine (pointing.drawn_execute pointing.pc x y 5).showsGlyph hindex ?_ (hscreen.trans hblank)
    hx hy
  intro row hrow
  have hdigit := (m.register d).lowNibble.isLt
  rw [hindex, hmemory, Font.toNat_glyphStart, Nat.add_assoc, hfont _ (by omega),
    Font.getD_bytes _ row hrow]

/-- After any history of a new machine, with loads of any programs, too, that are too large, in
which every decimal store and every store of registers that is carried out begins at 0xA0 or past
it, the font is where it was. If the screen is blank then, and there is room for the four columns
and the five rows of a glyph, pointing at the digit in a register and then drawing five rows shows
this digit, with its top left corner where the two registers say, and nothing else, without a
collision. Each of the two instructions may be carried out alone or by a step that finds it, and
neither fails. -/
theorem font_survives_and_shows_digits (keys : Keypad) (random : RandomSource) (now : Instant)
    (ops : List Operation) (hstores : (start keys random now).StoresFrom 0xA0 ops) :
    let m := (start keys random now).afterAll ops
    (List.range 80).map (fun k => m.memory.byteAt (0x50 + k)) = Font.bytes ∧
    (m.screen = Framebuffer.blank → ∀ d x y : Nibble,
      (m.register x).toNat % 64 ≤ 60 → (m.register y).toNat % 32 ≤ 27 →
      m.Ensures (.pointAtDigit d) fun pointing => ∀ pc timers,
        { pointing with pc := pc, timers := timers }.Ensures (.draw x y 5)
          (ShowsGlyph (m.register d).lowNibble ((m.register x).toNat % 64)
            ((m.register y).toNat % 32))) := by
  intro m
  have hfont : ∀ k < 80, m.memory.byteAt (0x50 + k) = Font.bytes.getD k 0 := fun k hk =>
    byteAt_font_of_storesFrom hstores hk
  constructor
  · have hlength : Font.bytes.length = 80 := Font.length_bytes
    apply List.ext_getElem
    · rw [List.length_map, List.length_range, hlength]
    · intro k hk hk'
      rw [List.getElem_map, List.getElem_range, hfont k (hlength ▸ hk'),
        List.getD_eq_getElem?_getD, List.getElem?_eq_getElem hk', Option.getD_some]
  · intro hblank d x y hx hy
    exact ensures_showsGlyph hfont hblank d hx hy

theorem CarriesOut.screen_of_clearScreen {m : Machine} {now : Instant}
    (h : m.CarriesOut now .clearScreen) :
    (m.perform (.step now)).machine.screen = Framebuffer.blank := by
  change (m.step now).machine.screen = _
  rw [h.machine_step]
  exact Framebuffer.clear_eq_blank m.screen

/-- A program that stores registers across the limit of memory, clears the screen and draws a digit
in the far corner. -/
def drawingDigit : List Byte :=
  [0x60, 0xFC, 0x61, 0x3B, 0x62, 0x1A, 0xAF, 0xFE, 0xF2, 0x55, 0x00, 0xE0, 0xF2, 0x29, 0xD0, 0x15]

/-- The program is loaded and has come to clear the screen. -/
def untilClearing : List Operation := .load (.ofList drawingDigit) :: List.replicate 5 (.step 0)

/-- The machine that is about to draw. -/
def atDigit : Machine := made.afterAll (untilClearing ++ [.step 0])

theorem screen_atDigit : atDigit.screen = Framebuffer.blank := by
  have hclearing : let before := made.afterAll untilClearing
      before.pc.toNat < 0xFFE ∧ Instruction.decode? before.fetched = some .clearScreen := by
    decide +kernel
  rw [atDigit, afterAll_append, afterAll_cons, afterAll_nil]
  exact (carriesOut_of_isOk hclearing.1 hclearing.2 rfl 0).screen_of_clearScreen

theorem font_survives_and_shows_digits_drawingDigit :
    let pointing := (atDigit.step 0).machine
    (made.StoresFrom 0xA0 (untilClearing ++ [.step 0]) ∧ atDigit.screen = Framebuffer.blank ∧
      (atDigit.register 0).toNat % 64 ≤ 60 ∧ (atDigit.register 1).toNat % 32 ≤ 27) ∧
    (atDigit.Finds (.pointAtDigit 2) ∧ pointing.Finds (.draw 0 1 5)) ∧
    (pointing.step 0).machine.ShowsGlyph 0xA 60 27 := by
  intro pointing
  have hstores : made.StoresFrom 0xA0 (untilClearing ++ [.step 0]) :=
    storesFrom_of_storesAbove (by decide +kernel)
  have hstate : ((atDigit.register 0).toNat % 64 = 60 ∧ (atDigit.register 1).toNat % 32 = 27 ∧
        (atDigit.register 2).lowNibble = 0xA) ∧
      (atDigit.pc.toNat < 0xFFE ∧
        Instruction.decode? atDigit.fetched = some (.pointAtDigit 2)) ∧
      pointing.pc.toNat < 0xFFE ∧ Instruction.decode? pointing.fetched = some (.draw 0 1 5) := by
    decide +kernel
  obtain ⟨⟨hx, hy, hdigit⟩, hwords⟩ := hstate
  have hpoints : atDigit.Finds (.pointAtDigit 2) := finds_of_decode? hwords.1.1 hwords.1.2
  have hdraws : pointing.Finds (.draw 0 1 5) := finds_of_decode? hwords.2.1 hwords.2.2
  obtain ⟨-, hshows⟩ := font_survives_and_shows_digits Keypad.released (RandomSource.ofSeed 0) 0
    (untilClearing ++ [.step 0]) (by rw [start_eq_made]; exact hstores)
  rw [start_eq_made, ← atDigit] at hshows
  have hensures := hshows screen_atDigit 2 0 1 (Nat.le_of_eq hx) (Nat.le_of_eq hy)
  rw [hx, hy, hdigit] at hensures
  obtain ⟨next, -, hnext, -, hpointing⟩ := hensures.step hpoints 0
  have hdrawing := hnext (atDigit.pc + 2) (next.timers.update 0).1
  rw [← hpointing] at hdrawing
  obtain ⟨drawn, -, hdrawn, -, hlast⟩ := hdrawing.step hdraws 0
  refine ⟨⟨hstores, screen_atDigit, Nat.le_of_eq hx, Nat.le_of_eq hy⟩, ⟨hpoints, hdraws⟩, ?_⟩
  rw [hlast]
  exact hdrawn.goOn _ _

end Machine

end Chip8
