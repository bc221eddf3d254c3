import Mathlib.Algebra.GroupWithZero.Nat
import Chip8.Proofs.InstructionText
import Chip8.Proofs.TraceLines
import Chip8.Terminal.Picture

/-!
# What the status says of a machine

The numbers in the status have as many digits as they need, so its fields have no fixed places, and
the text of an instruction stands between them. A number ends at the next blank, and the text of the
next instruction at the end of its line; the registers have fixed widths. So every field is read off
the status again. The bounds on the fields together keep both lines within the width of the screen.
-/

namespace Chip8

/-- A character of the basic alphabet that takes up a column of its own. -/
def isVisible (c : Char) : Bool := 0x20 ≤ c.toNat && c.toNat < 0x7F

theorem Width.ofChar_of_isVisible {c : Char} (h : isVisible c = true) : Width.ofChar c = 1 := by
  rw [isVisible, Bool.and_eq_true, decide_eq_true_eq, decide_eq_true_eq] at h
  exact ofChar_of_ascii h.1 h.2

/-- A visible line takes up as many columns as it has characters. -/
theorem sum_ofChar_of_isVisible {line : List Char} (h : line.all isVisible = true) :
    (line.map Width.ofChar).sum = line.length := by
  have hone : ∀ c ∈ line, Width.ofChar c = 1 := fun c hc =>
    Width.ofChar_of_isVisible (List.all_eq_true.mp h c hc)
  rw [List.map_congr_left hone]
  simp

theorem newline_not_mem {text : List Char} (h : text.all isVisible = true) : '\n' ∉ text :=
  fun hmem => absurd (List.all_eq_true.mp h _ hmem) (by decide)

theorem withoutReturn_eq_self {text : List Char} (h : text.all isVisible = true) :
    Picture.withoutReturn text = text := by
  rw [Picture.withoutReturn, if_neg]
  intro hlast
  exact absurd (List.all_eq_true.mp h _ (List.mem_of_getLast? hlast)) (by decide)

namespace Hex

theorem isVisible_of_mem_digits : ∀ c ∈ digits, isVisible c = true :=
  List.all_eq_true.mp (by decide)

@[simp] theorem all_isVisible_padded (width n : Nat) :
    (padded width n).toList.all isVisible = true :=
  List.all_eq_true.mpr fun c hc => isVisible_of_mem_digits c (mem_digits_of_mem_padded hc)

/-- The length of the text of a number that fits into a greater width. -/
theorem length_padded_le {width bound n : Nat} (hw : 0 < bound) (hle : width ≤ bound)
    (h : n < Nat.pow 16 bound) : (padded width n).toList.length ≤ bound := by
  rw [length_padded]
  exact Nat.max_le.mpr ⟨hle, count_le_of_lt hw h⟩

theorem length_padded_of_lt {width n : Nat} (hw : 0 < width) (h : n < Nat.pow 16 width) :
    (padded width n).toList.length = width := by
  rw [padded_of_lt hw h, String.toList_ofList, length_fixed]

/-- A number that ends at a blank is told from what follows it. -/
theorem padded_append_blank_inj {width a b : Nat} {r s : List Char}
    (h : (padded width a).toList ++ ' ' :: r = (padded width b).toList ++ ' ' :: s) :
    a = b ∧ r = s := by
  have hblank : ∀ n, ' ' ∉ (padded width n).toList := fun n hmem =>
    absurd (mem_digits_of_mem_padded hmem) (by decide)
  obtain ⟨hdigits, hrest⟩ :=
    Line.append_inj_of_stop (hblank a) (hblank b) (by simp) (by simp) h
  exact ⟨padded_injective (String.toList_inj.mp hdigits), (List.cons.inj hrest).2⟩

end Hex

namespace Instruction

theorem all_isVisible_text (i : Instruction) : i.text.toList.all isVisible = true := by
  cases i <;>
    simp [text, withOperands, registerName, addressText, byteText, isVisible]

theorem length_text_le (i : Instruction) : i.text.toList.length ≤ 13 := by
  have hregister : ∀ x : Nibble, (Hex.padded 1 x.val).toList.length = 1 := fun x =>
    Hex.length_padded_of_lt (by decide) x.isLt
  have hbyte : ∀ b : Byte, (Hex.padded 2 b.toNat).toList.length = 2 := fun b =>
    Hex.length_padded_of_lt (by decide) b.isLt
  have haddress : ∀ a : Address, (Hex.padded 3 a.toNat).toList.length = 3 := fun a =>
    Hex.length_padded_of_lt (by decide) a.isLt
  cases i <;>
    simp [text, withOperands, registerName, addressText, byteText, hregister, hbyte, haddress]

end Instruction

namespace Machine

section

variable (m : Machine)

/-- What the status shows as the next instruction is an instruction, or the text for none. -/
theorem nextInstructionText_eq :
    (∃ i : Instruction, m.nextInstructionText = i.text) ∨ m.nextInstructionText = "???" := by
  rw [nextInstructionText]
  cases hshown : m.disassembleAt m.pc with
  | ok text =>
      obtain ⟨i, -, htext⟩ := disassembleAt_eq_ok_iff.mp hshown
      exact .inl ⟨i, htext.symm⟩
  | error fault => exact .inr rfl

theorem all_isVisible_nextInstructionText :
    m.nextInstructionText.toList.all isVisible = true := by
  rcases m.nextInstructionText_eq with ⟨i, htext⟩ | htext
  · rw [htext]
    exact i.all_isVisible_text
  · rw [htext]
    decide

theorem length_nextInstructionText_le : m.nextInstructionText.toList.length ≤ 13 := by
  rcases m.nextInstructionText_eq with ⟨i, htext⟩ | htext
  · rw [htext]
    exact i.length_text_le
  · rw [htext]
    decide

/-! ## The first line -/

theorem toList_statusHead :
    m.statusHead.toList =
      "PC:".toList ++ ((Hex.padded 3 m.pc.toNat).toList ++ ' ' ::
        ("I:".toList ++ ((Hex.padded 3 m.i.toNat).toList ++ ' ' ::
          ("SP:".toList ++ ((Hex.padded 1 m.stack.depth).toList ++ ' ' ::
            m.nextInstructionText.toList))))) := by
  simp only [statusHead, String.toList_append, List.append_assoc]
  rfl

theorem all_isVisible_statusHead : m.statusHead.toList.all isVisible = true := by
  simp only [toList_statusHead, List.all_append, List.all_cons, Hex.all_isVisible_padded,
    all_isVisible_nextInstructionText, Bool.and_true, Bool.true_and]
  decide

/-- The bound takes every field at its longest, though no machine has all of them so: where the
counter has four digits, there is no instruction. -/
theorem length_statusHead_le : m.statusHead.toList.length ≤ 34 := by
  have hpc : (Hex.padded 3 m.pc.toNat).toList.length ≤ 4 :=
    Hex.length_padded_le (by decide) (by decide) m.pc.isLt
  have hindex : (Hex.padded 3 m.i.toNat).toList.length ≤ 4 :=
    Hex.length_padded_le (by decide) (by decide) m.i.isLt
  have hdepth : (Hex.padded 1 m.stack.depth).toList.length ≤ 2 :=
    Hex.length_padded_le (by decide) (by decide)
      (Nat.lt_of_le_of_lt m.stack.depth_le (by decide))
  have htext := m.length_nextInstructionText_le
  calc
    m.statusHead.toList.length
      = (Hex.padded 3 m.pc.toNat).toList.length + (Hex.padded 3 m.i.toNat).toList.length +
          (Hex.padded 1 m.stack.depth).toList.length + m.nextInstructionText.toList.length +
          11 := by
        simp only [toList_statusHead, List.length_append, String.reduceToList, List.length_cons,
          List.length_nil]
        omega
    _ ≤ 4 + 4 + 2 + 13 + 11 := by omega

/-! ## The second line -/

/-- A register in the second line. -/
def registerEntry (b : Byte) : List Char := ' ' :: (Hex.padded 2 b.toNat).toList

@[simp] theorem length_registerEntry (b : Byte) : (registerEntry b).length = 3 :=
  congrArg Nat.succ (Hex.length_padded_of_lt (by decide) b.isLt)

theorem registerEntry_injective : Function.Injective registerEntry := by
  intro a b h
  have hdigits := String.toList_inj.mp (List.cons.inj h).2
  exact BitVec.eq_of_toNat_eq (Hex.padded_injective hdigits)

theorem toList_statusRegisters :
    m.statusRegisters.toList = "V0-F:".toList ++ m.v.toList.flatMap registerEntry := by
  rw [statusRegisters, String.toList_append, String.toList_join, List.flatMap_map]
  congr 2
  funext b
  rw [String.toList_append]
  rfl

theorem all_isVisible_statusRegisters : m.statusRegisters.toList.all isVisible = true := by
  have hentry : ∀ b : Byte, (registerEntry b).all isVisible = true := by
    intro b
    rw [registerEntry, List.all_cons, Hex.all_isVisible_padded]
    decide
  rw [toList_statusRegisters, List.all_append, List.all_flatMap, Bool.and_eq_true]
  exact ⟨by decide, List.all_eq_true.mpr fun b _ => hentry b⟩

theorem length_statusRegisters : m.statusRegisters.toList.length = 53 := by
  rw [toList_statusRegisters, List.length_append, List.length_flatMap]
  simp

end

/-! ## Both lines -/

theorem toList_statusLine (m : Machine) :
    m.statusLine.toList = m.statusHead.toList ++ '\n' :: m.statusRegisters.toList := by
  rw [statusLine, String.toList_append, String.toList_append, List.append_assoc]
  rfl

/-- The screen shows the two lines. -/
theorem lines_statusLine (m : Machine) :
    Picture.lines m.statusLine.toList = [m.statusHead.toList, m.statusRegisters.toList] := by
  have hparts : m.statusLine.toList.splitOn '\n' =
      [m.statusHead.toList, m.statusRegisters.toList] := by
    rw [toList_statusLine,
      List.splitOn_append_cons_self_of_not_mem (newline_not_mem m.all_isVisible_statusHead),
      List.splitOn_eq_singleton (newline_not_mem m.all_isVisible_statusRegisters)]
  rw [Picture.lines, hparts]
  change [Picture.withoutReturn m.statusHead.toList] ++ [m.statusRegisters.toList] = _
  rw [withoutReturn_eq_self m.all_isVisible_statusHead]
  rfl

/-- Texts of entries with the same width are told apart entry by entry. -/
theorem flatMap_registerEntry_injective {as bs : List Byte} (hlength : as.length = bs.length)
    (h : as.flatMap registerEntry = bs.flatMap registerEntry) : as = bs := by
  induction as generalizing bs with
  | nil => exact (List.length_eq_zero_iff.mp hlength.symm).symm
  | cons a as ih =>
      cases bs with
      | nil => cases hlength
      | cons b bs =>
          rw [List.flatMap_cons, List.flatMap_cons] at h
          obtain ⟨hentry, hrest⟩ := List.append_inj h (by simp)
          rw [registerEntry_injective hentry, ih (Nat.succ.inj hlength) hrest]

/-- The fields of the status are read off it. -/
theorem eq_of_statusLine_eq {m k : Machine} (h : m.statusLine = k.statusLine) :
    m.pc = k.pc ∧ m.i = k.i ∧ m.stack.depth = k.stack.depth ∧
      m.nextInstructionText = k.nextInstructionText ∧ m.v = k.v := by
  have hlines := congrArg Picture.lines (congrArg String.toList h)
  rw [lines_statusLine, lines_statusLine] at hlines
  obtain ⟨hhead, hregisters⟩ := List.cons.inj hlines
  rw [toList_statusHead, toList_statusHead] at hhead
  obtain ⟨hpc, hrest⟩ := Hex.padded_append_blank_inj (List.append_cancel_left hhead)
  obtain ⟨hindex, hrest⟩ := Hex.padded_append_blank_inj (List.append_cancel_left hrest)
  obtain ⟨hdepth, htext⟩ := Hex.padded_append_blank_inj (List.append_cancel_left hrest)
  rw [toList_statusRegisters, toList_statusRegisters] at hregisters
  have hentries := List.append_cancel_left (List.cons.inj hregisters).1
  have hv := flatMap_registerEntry_injective (by simp) hentries
  exact ⟨BitVec.eq_of_toNat_eq hpc, BitVec.eq_of_toNat_eq hindex, hdepth,
    String.toList_inj.mp htext, Vector.toList_inj.mp hv⟩

/-- The status of every machine, whatever its counter, its index register and its call stack hold,
has exactly two lines. Each has at most 64 characters, and takes up no more columns than the screen
has. Two machines have the same status if and only if they have the same counter, index register,
depth of the call stack, text of the next instruction and registers. -/
theorem status_fits_and_determines :
    (∀ m : Machine,
      Picture.lines m.statusLine.toList = [m.statusHead.toList, m.statusRegisters.toList] ∧
      m.statusHead.toList.length ≤ 64 ∧ m.statusRegisters.toList.length ≤ 64 ∧
      (m.statusHead.toList.map Width.ofChar).sum ≤ Framebuffer.width ∧
      (m.statusRegisters.toList.map Width.ofChar).sum ≤ Framebuffer.width) ∧
    ∀ m k : Machine, m.statusLine = k.statusLine ↔
      m.pc = k.pc ∧ m.i = k.i ∧ m.stack.depth = k.stack.depth ∧
        m.nextInstructionText = k.nextInstructionText ∧ m.v = k.v := by
  refine ⟨fun m => ?_, fun m k => ⟨eq_of_statusLine_eq, ?_⟩⟩
  · have hhead : m.statusHead.toList.length ≤ 64 :=
      m.length_statusHead_le.trans (by decide)
    have hregisters : m.statusRegisters.toList.length ≤ 64 :=
      m.length_statusRegisters.trans_le (by decide)
    refine ⟨m.lines_statusLine, hhead, hregisters, ?_, ?_⟩
    · rw [sum_ofChar_of_isVisible m.all_isVisible_statusHead]
      exact hhead
    · rw [sum_ofChar_of_isVisible m.all_isVisible_statusRegisters]
      exact hregisters
  · rintro ⟨hpc, hindex, hdepth, htext, hv⟩
    rw [statusLine, statusLine, statusHead, statusHead, statusRegisters, statusRegisters, hpc,
      hindex, hdepth, htext, hv]

/-- A machine with a full call stack that is about to draw. -/
def crowded : Machine :=
  { holding [0xDF, 0xEF] with
    i := 0xFFFF
    stack := { slots := Vector.replicate 16 0x202, depth := 16 } }

example : crowded.statusHead = "PC:200 I:FFFF SP:10 DRW VF, VE, F" := by decide +kernel

end Machine

end Chip8
