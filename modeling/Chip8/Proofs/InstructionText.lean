import Chip8.Instruction.Text
import Chip8.Proofs.Decoding

/-!
# Reading an instruction off its text

A line of assembly text is a mnemonic and operands. `Instruction.line` is the line of an
instruction; the operands of a line may be of any size, also where no instruction word could carry
them. Lines with the same mnemonic are told apart by the operands in some place: the text of a
register begins with a letter that is no digit, that of a number has digits only, and the names have
other letters. `isApart` looks for such a place, which any two of the instructions have.
-/

namespace Chip8

/-- An operand of a line. -/
inductive Operand where
  | register (x : Nat)
  /-- A number, in at least so many digits. -/
  | number (places value : Nat)
  /-- A name that stands for itself. -/
  | name (text : String)
  deriving DecidableEq

/-- A line of assembly text. The code is the word that stands for the line when all its operands are
zero, and it tells which instruction the line is of. -/
structure Line where
  code : Nat
  mnemonic : String
  operands : List Operand
  deriving DecidableEq

namespace Operand

/-- An operand as it is written. -/
def text : Operand → String
  | register x => "V" ++ Hex.padded 1 x
  | number places value => Hex.padded places value
  | name text => text

/-- The operand with zero for its value. -/
def blank : Operand → Operand
  | register _ => register 0
  | number places _ => number places 0
  | name text => name text

/-- No values make the texts of the two operands the same. -/
def isApart : Operand → Operand → Bool
  | register _, number _ _ | number _ _, register _ => true
  | register _, name text | name text, register _ => text.toList.head? != some 'V'
  | number _ _, name text | name text, number _ _ => text.toList.any (· ∉ Hex.digits)
  | name text, name other => text != other
  | _, _ => false

/-- The text has no comma. -/
def isPlain : Operand → Bool
  | name text => ',' ∉ text.toList
  | _ => true

end Operand

namespace Line

/-- The texts of operands, each behind a separator, which is a comma and a blank from the second
operand on. -/
def operandsText (separator : String) : List Operand → String
  | [] => ""
  | operand :: rest => separator ++ operand.text ++ operandsText ", " rest

/-- A line as it is written. -/
def text (l : Line) : String := l.mnemonic ++ operandsText " " l.operands

/-- The line with zero for all operands. -/
def blank (l : Line) : Line := { l with operands := l.operands.map Operand.blank }

/-- What operands add to the code of their line: registers come from the left, the first one with
the given weight, and a number stands at the right end. -/
def placed (weight : Nat) : List Operand → Nat
  | [] => 0
  | .register x :: rest => weight * x + placed (weight / 16) rest
  | .number _ value :: rest => value + placed weight rest
  | .name _ :: rest => placed weight rest

/-- The word that stands for a line. -/
def word (l : Line) : Word := BitVec.ofNat 16 (l.code + placed 256 l.operands)

/-- The lines have different mnemonics, not as many operands, or operands in the same place that are
apart. -/
def isApart (l k : Line) : Bool :=
  l.mnemonic != k.mnemonic || l.operands.length != k.operands.length ||
    (l.operands.zip k.operands).any fun pair => pair.1.isApart pair.2

/-- The mnemonic has no blank, and no operand has a comma. -/
def isPlain (l : Line) : Bool := ' ' ∉ l.mnemonic.toList && l.operands.all Operand.isPlain

end Line

namespace Instruction

/-- The line of an instruction. -/
def line : Instruction → Line
  | clearScreen => ⟨0x00E0, "CLS", []⟩
  | ret => ⟨0x00EE, "RET", []⟩
  | jump target => ⟨0x1000, "JP", [.number 3 target.toNat]⟩
  | call target => ⟨0x2000, "CALL", [.number 3 target.toNat]⟩
  | skipIfByte x value => ⟨0x3000, "SE", [.register x.val, .number 2 value.toNat]⟩
  | skipUnlessByte x value => ⟨0x4000, "SNE", [.register x.val, .number 2 value.toNat]⟩
  | skipIfSame x y => ⟨0x5000, "SE", [.register x.val, .register y.val]⟩
  | loadByte x value => ⟨0x6000, "LD", [.register x.val, .number 2 value.toNat]⟩
  | addByte x value => ⟨0x7000, "ADD", [.register x.val, .number 2 value.toNat]⟩
  | copy x y => ⟨0x8000, "LD", [.register x.val, .register y.val]⟩
  | or x y => ⟨0x8001, "OR", [.register x.val, .register y.val]⟩
  | and x y => ⟨0x8002, "AND", [.register x.val, .register y.val]⟩
  | xor x y => ⟨0x8003, "XOR", [.register x.val, .register y.val]⟩
  | add x y => ⟨0x8004, "ADD", [.register x.val, .register y.val]⟩
  | sub x y => ⟨0x8005, "SUB", [.register x.val, .register y.val]⟩
  | shiftRight x => ⟨0x8006, "SHR", [.register x.val]⟩
  | subFrom x y => ⟨0x8007, "SUBN", [.register x.val, .register y.val]⟩
  | shiftLeft x => ⟨0x800E, "SHL", [.register x.val]⟩
  | skipIfDiffer x y => ⟨0x9000, "SNE", [.register x.val, .register y.val]⟩
  | setIndex target => ⟨0xA000, "LD", [.name "I", .number 3 target.toNat]⟩
  | jumpOffset base => ⟨0xB000, "JP", [.name "V0", .number 3 base.toNat]⟩
  | random x mask => ⟨0xC000, "RND", [.register x.val, .number 2 mask.toNat]⟩
  | draw x y rows => ⟨0xD000, "DRW", [.register x.val, .register y.val, .number 1 rows.val]⟩
  | skipIfHeld x => ⟨0xE09E, "SKP", [.register x.val]⟩
  | skipUnlessHeld x => ⟨0xE0A1, "SKNP", [.register x.val]⟩
  | readDelay x => ⟨0xF007, "LD", [.register x.val, .name "DT"]⟩
  | awaitKey x => ⟨0xF00A, "LD", [.register x.val, .name "K"]⟩
  | setDelay x => ⟨0xF015, "LD", [.name "DT", .register x.val]⟩
  | setSound x => ⟨0xF018, "LD", [.name "ST", .register x.val]⟩
  | addIndex x => ⟨0xF01E, "ADD", [.name "I", .register x.val]⟩
  | pointAtDigit x => ⟨0xF029, "LD", [.name "F", .register x.val]⟩
  | storeDecimal x => ⟨0xF033, "LD", [.name "B", .register x.val]⟩
  | storeRegisters x => ⟨0xF055, "LD", [.name "[I]", .register x.val]⟩
  | loadRegisters x => ⟨0xF065, "LD", [.register x.val, .name "[I]"]⟩

/-- The lines of all instructions, with zero for their operands. -/
def forms : List Line :=
  let x : Nibble := ⟨0, Nat.zero_lt_succ 15⟩
  ([clearScreen, ret, jump 0, call 0, skipIfByte x 0, skipUnlessByte x 0, skipIfSame x x,
    loadByte x 0, addByte x 0, copy x x, or x x, and x x, xor x x, add x x, sub x x, shiftRight x,
    subFrom x x, shiftLeft x, skipIfDiffer x x, setIndex 0, jumpOffset 0, random x 0, draw x x x,
    skipIfHeld x, skipUnlessHeld x, readDelay x, awaitKey x, setDelay x, setSound x, addIndex x,
    pointAtDigit x, storeDecimal x, storeRegisters x, loadRegisters x] : List Instruction).map line

theorem blank_line_mem_forms (i : Instruction) : i.line.blank ∈ forms := by
  cases i <;> exact of_decide_eq_true rfl

theorem isPlain_of_mem_forms : ∀ f ∈ forms, f.isPlain = true := by decide +kernel

/-- Any two of the forms are apart. -/
theorem isApart_of_mem_forms : ∀ f ∈ forms, ∀ g ∈ forms, f ≠ g → f.isApart g = true := by
  decide +kernel

theorem text_line (i : Instruction) : i.line.text = i.text := by
  cases i <;>
    simp [line, Line.text, Line.operandsText, Operand.text, text, withOperands, registerName,
      addressText, byteText, ← String.toList_inj]

theorem word_line (i : Instruction) : i.line.word = i.word 0 := by
  cases i <;>
    simp only [line, Line.word, Line.placed, word, Word.ofAddress, Word.ofByte, Word.ofNibbles]
  all_goals congr 1
  all_goals simp
  all_goals omega

end Instruction

/-! ## Operands -/

namespace Operand

theorem mem_digits_of_number {places value : Nat} {c : Char}
    (h : c ∈ (number places value).text.toList) : c ∈ Hex.digits :=
  Hex.mem_digits_of_mem_padded h

theorem toList_register (x : Nat) :
    (register x).text.toList = 'V' :: (Hex.padded 1 x).toList := by
  rw [text, String.toList_append]
  rfl

/-- Operands that are apart are written differently, whatever their values. -/
theorem text_ne_of_isApart {a b : Operand} (h : a.isApart b = true) : a.text ≠ b.text := by
  have hnumber : ∀ {x places value}, (register x).text ≠ (number places value).text := by
    intro x places value htext
    have hletter : 'V' ∈ (number places value).text.toList := by
      rw [← htext, toList_register]
      exact List.mem_cons_self
    exact absurd (mem_digits_of_number hletter) (by decide)
  have hregister : ∀ {x name'}, (name'.toList.head? != some 'V') = true →
      (register x).text ≠ name' := by
    rintro x name' hhead rfl
    rw [toList_register] at hhead
    simp at hhead
  have hname : ∀ {places value name'}, (name'.toList.any (· ∉ Hex.digits)) = true →
      (number places value).text ≠ name' := by
    rintro places value name' hletter rfl
    obtain ⟨c, hc, hother⟩ := List.any_eq_true.mp hletter
    exact absurd (mem_digits_of_number hc) (of_decide_eq_true hother)
  cases a with
  | register x =>
      cases b with
      | register _ => cases h
      | number _ _ => exact hnumber
      | name _ => exact hregister h
  | number places value =>
      cases b with
      | register _ => exact hnumber.symm
      | number _ _ => cases h
      | name _ => exact hname h
  | name text =>
      cases b with
      | register _ => exact (hregister h).symm
      | number _ _ => exact (hname h).symm
      | name other => exact bne_iff_ne.mp h

theorem eq_of_blank_eq {a b : Operand} (hblank : a.blank = b.blank) (htext : a.text = b.text) :
    a = b := by
  cases a with
  | register x =>
      cases b with
      | register y =>
          have hdigits := congrArg String.toList htext
          rw [toList_register, toList_register] at hdigits
          rw [Hex.padded_injective (String.toList_inj.mp (List.cons.inj hdigits).2)]
      | number _ _ | name _ => cases hblank
  | number places value =>
      cases b with
      | number other value' =>
          obtain rfl : places = other := by injection hblank
          rw [Hex.padded_injective htext]
      | register _ | name _ => cases hblank
  | name text =>
      cases b with
      | name other => rw [show text = other from htext]
      | register _ | number _ _ => cases hblank

theorem comma_not_mem_text {a : Operand} (h : a.isPlain = true) : ',' ∉ a.text.toList := by
  cases a with
  | register x =>
      rw [toList_register]
      intro hcomma
      rcases List.mem_cons.mp hcomma with hletter | hdigit
      · exact absurd hletter (by decide)
      · exact absurd (Hex.mem_digits_of_mem_padded hdigit) (by decide)
  | number places value =>
      exact fun hcomma => absurd (mem_digits_of_number hcomma) (by decide)
  | name text => exact of_decide_eq_true h

@[simp] theorem isPlain_blank (a : Operand) : a.blank.isPlain = a.isPlain := by
  cases a <;> rfl

@[simp] theorem isApart_blank (a b : Operand) : a.blank.isApart b.blank = a.isApart b := by
  cases a <;> cases b <;> rfl

end Operand

/-! ## Lines -/

namespace Line

/-- Where a character does not occur before the place at which two texts may go on with it, they
have the same parts before and behind this place. -/
theorem append_inj_of_stop {c : Char} {p q r s : List Char} (hp : c ∉ p) (hq : c ∉ q)
    (hr : ∀ a ∈ r.head?, a = c) (hs : ∀ a ∈ s.head?, a = c) (h : p ++ r = q ++ s) :
    p = q ∧ r = s := by
  have hpart : ∀ {p r : List Char}, c ∉ p → (∀ a ∈ r.head?, a = c) →
      (p ++ r).takeWhile (· ≠ c) = p := by
    intro p r hp hr
    have hbefore : ∀ a ∈ p, decide (a ≠ c) = true := fun a ha =>
      decide_eq_true fun hac => hp (hac ▸ ha)
    rw [List.takeWhile_append_of_pos hbefore]
    cases r with
    | nil => exact List.append_nil p
    | cons a r => simp [hr a rfl]
  obtain rfl : p = q := by rw [← hpart hp hr, h, hpart hq hs]
  exact ⟨rfl, List.append_cancel_left h⟩

theorem toList_operandsText_cons (separator : String) (a : Operand) (rest : List Operand) :
    (operandsText separator (a :: rest)).toList =
      separator.toList ++ (a.text.toList ++ (operandsText ", " rest).toList) := by
  rw [operandsText, String.toList_append, String.toList_append, List.append_assoc]

theorem head?_operandsText {separator : String} {c : Char} (h : separator.toList.head? = some c)
    (operands : List Operand) : ∀ a ∈ (operandsText separator operands).toList.head?, a = c := by
  cases operands with
  | nil => exact fun a ha => nomatch ha
  | cons first rest =>
      rw [toList_operandsText_cons, List.head?_append, h]
      rintro a ha
      exact (Option.some.inj ha).symm

/-- Operands without commas are told from each other where they stand behind one another. -/
theorem map_text_of_operandsText {separator : String} {as bs : List Operand}
    (hseparator : separator.toList ≠ []) (has : as.all Operand.isPlain = true)
    (hbs : bs.all Operand.isPlain = true)
    (h : (operandsText separator as).toList = (operandsText separator bs).toList) :
    as.map Operand.text = bs.map Operand.text := by
  have hends : ∀ {a rest}, (operandsText separator (a :: rest)).toList ≠ [] := by
    intro a rest hempty
    rw [toList_operandsText_cons] at hempty
    exact hseparator (List.append_eq_nil_iff.mp hempty).1
  induction as generalizing separator bs with
  | nil =>
      cases bs with
      | nil => rfl
      | cons b bs => exact absurd h.symm hends
  | cons a as ih =>
      cases bs with
      | nil => exact absurd h hends
      | cons b bs =>
          rw [List.all_cons, Bool.and_eq_true] at has hbs
          rw [toList_operandsText_cons, toList_operandsText_cons] at h
          obtain ⟨htext, hrest⟩ := append_inj_of_stop (Operand.comma_not_mem_text has.1)
            (Operand.comma_not_mem_text hbs.1) (head?_operandsText rfl as)
            (head?_operandsText rfl bs) (List.append_cancel_left h)
          rw [List.map_cons, List.map_cons, String.toList_inj.mp htext,
            ih (by decide) has.2 hbs.2 hrest]
          intro a rest hempty
          rw [toList_operandsText_cons] at hempty
          simp at hempty

/-- The parts of a line are read off its text. -/
theorem parts_of_text {l k : Line} (hl : l.isPlain = true) (hk : k.isPlain = true)
    (h : l.text = k.text) :
    l.mnemonic = k.mnemonic ∧ l.operands.map Operand.text = k.operands.map Operand.text := by
  rw [isPlain, Bool.and_eq_true, decide_eq_true_eq] at hl hk
  have hlist := congrArg String.toList h
  rw [text, text, String.toList_append, String.toList_append] at hlist
  obtain ⟨hmnemonic, hoperands⟩ := append_inj_of_stop hl.1 hk.1
    (head?_operandsText rfl l.operands) (head?_operandsText rfl k.operands) hlist
  exact ⟨String.toList_inj.mp hmnemonic,
    map_text_of_operandsText (by decide) hl.2 hk.2 hoperands⟩

@[simp] theorem isPlain_blank (l : Line) : l.blank.isPlain = l.isPlain := by
  have hoperand : Operand.isPlain ∘ Operand.blank = Operand.isPlain :=
    funext Operand.isPlain_blank
  rw [isPlain, isPlain, blank, List.all_map, hoperand]

@[simp] theorem isApart_blank (l k : Line) : l.blank.isApart k.blank = l.isApart k := by
  simp [isApart, blank, List.zip_map, List.any_map, Function.comp_def]

theorem text_ne_of_isApart {l k : Line} (hl : l.isPlain = true) (hk : k.isPlain = true)
    (h : l.isApart k = true) : l.text ≠ k.text := by
  intro htext
  obtain ⟨hmnemonic, hoperands⟩ := parts_of_text hl hk htext
  have hlength : l.operands.length = k.operands.length := by
    rw [← List.length_map Operand.text, hoperands, List.length_map]
  rw [isApart, hmnemonic, hlength] at h
  simp only [bne_self_eq_false, Bool.false_or, List.any_eq_true] at h
  obtain ⟨⟨a, b⟩, hmem, hapart⟩ := h
  obtain ⟨n, hn⟩ := List.mem_iff_getElem?.mp hmem
  obtain ⟨ha, hb⟩ := List.getElem?_zip_eq_some.mp hn
  have hsame := congrArg (·[n]?) hoperands
  simp only [List.getElem?_map, ha, hb, Option.map_some] at hsame
  exact Operand.text_ne_of_isApart hapart (Option.some.inj hsame)

theorem eq_of_blank_eq {l k : Line} (hblank : l.blank = k.blank)
    (htext : l.operands.map Operand.text = k.operands.map Operand.text) : l = k := by
  obtain ⟨code, mnemonic, as⟩ := l
  obtain ⟨code', mnemonic', bs⟩ := k
  simp only [blank, mk.injEq] at hblank
  obtain ⟨rfl, rfl, hblank⟩ := hblank
  congr 1
  induction as generalizing bs with
  | nil => exact (List.map_eq_nil_iff.mp htext.symm).symm
  | cons a as ih =>
      cases bs with
      | nil => cases htext
      | cons b bs =>
          obtain ⟨hfirst, hrest⟩ := List.cons.inj hblank
          obtain ⟨htext, htexts⟩ := List.cons.inj htext
          rw [Operand.eq_of_blank_eq hfirst htext, ih bs hrest htexts]

/-- The text of a line that has the form of an instruction determines the line. -/
theorem eq_of_text_eq {i j : Instruction} {l k : Line} (hl : l.blank = i.line.blank)
    (hk : k.blank = j.line.blank) (h : l.text = k.text) : l = k := by
  have hform := i.blank_line_mem_forms
  have hother := j.blank_line_mem_forms
  rw [← hl] at hform
  rw [← hk] at hother
  have hplain := Instruction.isPlain_of_mem_forms _ hform
  have hplain' := Instruction.isPlain_of_mem_forms _ hother
  rw [isPlain_blank] at hplain hplain'
  by_cases hsame : l.blank = k.blank
  · exact eq_of_blank_eq hsame (parts_of_text hplain hplain' h).2
  · have hapart := Instruction.isApart_of_mem_forms _ hform _ hother hsame
    rw [isApart_blank] at hapart
    exact absurd h (text_ne_of_isApart hplain hplain' hapart)

end Line

namespace Instruction

/-- An instruction has one line. -/
theorem line_injective {i j : Instruction} (h : i.line = j.line) : i = j := by
  have hword : i.word 0 = j.word 0 := by rw [← word_line, ← word_line, h]
  have hdecoded : decode? (i.word 0) = decode? (j.word 0) := by rw [hword]
  rw [decode?_word, decode?_word] at hdecoded
  exact Option.some.inj hdecoded

theorem text_injective {i j : Instruction} (h : i.text = j.text) : i = j := by
  rw [← text_line, ← text_line] at h
  exact line_injective (Line.eq_of_text_eq rfl rfl h)

/-- An instruction has one word, unless it is a shift: then the word has a nibble that does not
matter. -/
theorem word_eq_or_isShift (i : Instruction) (spare other : Nibble) :
    i.word spare = i.word other ∨
      ∃ x n, (n = 6 ∨ n = 0xE) ∧ ∀ y, i.word y = .ofNibbles 8 x y n := by
  cases i with
  | shiftRight x => exact .inr ⟨x, 6, .inl rfl, fun _ => rfl⟩
  | shiftLeft x => exact .inr ⟨x, 0xE, .inr rfl, fun _ => rfl⟩
  | _ => exact .inl rfl

theorem disassemble?_shift (x y : Nibble) {n : Nibble} (hn : n = 6 ∨ n = 0xE) :
    disassemble? (.ofNibbles 8 x y n) = disassemble? (.ofNibbles 8 x 0 n) := by
  rcases hn with rfl | rfl
  · have hword := decode?_word (.shiftRight x)
    rw [disassemble?, disassemble?]
    exact congrArg _ ((hword y).trans (hword 0).symm)
  · have hword := decode?_word (.shiftLeft x)
    rw [disassemble?, disassemble?]
    exact congrArg _ ((hword y).trans (hword 0).symm)

/-- The text of a line tells which instruction the line is of and what its operands are, whatever
their sizes; each instruction has such a line, with its own text. So two instructions with the same
text are the same. Two words of instructions are disassembled to the same text if and only if they
are the same word, or the words of one shift of the same register. -/
theorem text_determines_instruction :
    (∀ i : Instruction, i.line.text = i.text ∧ i.line.word = i.word 0) ∧
    (∀ (i j : Instruction) (l k : Line), l.blank = i.line.blank → k.blank = j.line.blank →
      l.text = k.text → l = k) ∧
    (∀ i j : Instruction, i.text = j.text → i = j) ∧
    ∀ w v : Word, (decode? w).isSome → (decode? v).isSome →
      (disassemble? w = disassemble? v ↔
        w = v ∨
          ∃ x y z n, (n = 6 ∨ n = 0xE) ∧ w = .ofNibbles 8 x y n ∧ v = .ofNibbles 8 x z n) := by
  refine ⟨fun i => ⟨i.text_line, i.word_line⟩, fun _ _ _ _ hl hk h => Line.eq_of_text_eq hl hk h,
    fun _ _ => text_injective, ?_⟩
  intro w v hw hv
  obtain ⟨i, hi⟩ := Option.isSome_iff_exists.mp hw
  obtain ⟨j, hj⟩ := Option.isSome_iff_exists.mp hv
  constructor
  · intro h
    rw [disassemble?, disassemble?, hi, hj] at h
    obtain rfl := text_injective (Option.some.inj h)
    rw [← word_of_decode? hi, ← word_of_decode? hj]
    rcases i.word_eq_or_isShift w.y v.y with hsame | ⟨x, n, hn, hword⟩
    · exact .inl hsame
    · exact .inr ⟨x, w.y, v.y, n, hn, hword w.y, hword v.y⟩
  · rintro (rfl | ⟨x, y, z, n, hn, rfl, rfl⟩)
    · rfl
    · rw [disassemble?_shift x y hn, disassemble?_shift x z hn]

/-- A line of the drawing instruction with operands that no word could carry. -/
def wideDraw : Line := ⟨0xD000, "DRW", [.register 0x10, .register 0, .number 1 0x100]⟩

theorem text_determines_instruction_atWideDraw :
    (wideDraw.blank = (draw 1 2 3).line.blank ∧ wideDraw.text = "DRW V10, V0, 100") ∧
    (∀ j k, k.blank = (line j).blank → "DRW V10, V0, 100" = k.text → wideDraw = k) ∧
    ((decode? 0x8126).isSome ∧ (decode? 0x8136).isSome) ∧
    disassemble? 0x8126 = disassemble? 0x8136 := by
  obtain ⟨-, hlines, -, hwords⟩ := text_determines_instruction
  have hdecoded : (decode? 0x8126).isSome ∧ (decode? 0x8136).isSome := by decide
  have hblank : wideDraw.blank = (draw 1 2 3).line.blank := by decide
  have htext : wideDraw.text = "DRW V10, V0, 100" := by decide +kernel
  refine ⟨⟨hblank, htext⟩, ?_, hdecoded, ?_⟩
  · intro j k hk h
    exact hlines _ j wideDraw k hblank hk (htext.trans h)
  · exact (hwords 0x8126 0x8136 hdecoded.1 hdecoded.2).mpr
      (.inr ⟨1, 2, 3, 6, .inl rfl, by decide, by decide⟩)

end Instruction

end Chip8
