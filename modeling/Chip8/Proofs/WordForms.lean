import Mathlib.Data.Set.Card
import Chip8.Proofs.InstructionText
import Chip8.Proofs.Stepping

/-!
# The forms of the instruction words

The table of the instruction set writes the words of an instruction as a form such as `8xy4`: four
places for the hexadecimal digits of a word, with digits that are fixed and letters for the
operands. `Word.StandsFor` reads a word by the form of an instruction alone. The words that it finds
are those that `Instruction.word` puts together, so decoding accepts exactly the words of the table.
-/

namespace Chip8

/-- The operands of a line by their letters: its registers are `x` and `y`, its number is `n`. -/
def Line.lettered (l : Line) : List (Char × Nat) :=
  ['x', 'y'].zip (l.operands.filterMap fun | .register x => some x | _ => none) ++
    ['n'].zip (l.operands.filterMap fun | .number _ value => some value | _ => none)

namespace Instruction

/-- The form of the words of an instruction. -/
def form : Instruction → String
  | clearScreen => "00E0"
  | ret => "00EE"
  | jump _ => "1nnn"
  | call _ => "2nnn"
  | skipIfByte _ _ => "3xnn"
  | skipUnlessByte _ _ => "4xnn"
  | skipIfSame _ _ => "5xy0"
  | loadByte _ _ => "6xnn"
  | addByte _ _ => "7xnn"
  | copy _ _ => "8xy0"
  | or _ _ => "8xy1"
  | and _ _ => "8xy2"
  | xor _ _ => "8xy3"
  | add _ _ => "8xy4"
  | sub _ _ => "8xy5"
  | shiftRight _ => "8xy6"
  | subFrom _ _ => "8xy7"
  | shiftLeft _ => "8xyE"
  | skipIfDiffer _ _ => "9xy0"
  | setIndex _ => "Annn"
  | jumpOffset _ => "Bnnn"
  | random _ _ => "Cxnn"
  | draw _ _ _ => "Dxyn"
  | skipIfHeld _ => "Ex9E"
  | skipUnlessHeld _ => "ExA1"
  | readDelay _ => "Fx07"
  | awaitKey _ => "Fx0A"
  | setDelay _ => "Fx15"
  | setSound _ => "Fx18"
  | addIndex _ => "Fx1E"
  | pointAtDigit _ => "Fx29"
  | storeDecimal _ => "Fx33"
  | storeRegisters _ => "Fx55"
  | loadRegisters _ => "Fx65"

/-- The form has a letter that is no operand of the instruction. -/
def ignoresLetter : Instruction → Bool
  | shiftRight _ | shiftLeft _ => true
  | _ => false

end Instruction

namespace Word

/-- The nibbles of a word, from the left. -/
def nibbles (w : Word) : List Nibble := [w.kind, w.x, w.y, w.n]

/-- The value of a digit in a form. Letters are no digits: they are in lower case. -/
def digit? (c : Char) : Option Nat :=
  if c.isDigit then some (c.toNat - 48) else if c.isUpper then some (c.toNat - 55) else none

/-- The number that the digits of a word make in the places of a letter. -/
def reading (w : Word) (form : String) (letter : Char) : Nat :=
  (form.toList.zip w.nibbles).foldl
    (fun value place => if place.1 = letter then value * 16 + place.2.val else value) 0

/-- A word has the digits of an instruction's form in their places, and in the places of each letter
the digits of the operand with this letter. A letter without an operand may stand for any digit. -/
structure StandsFor (w : Word) (i : Instruction) : Prop where
  digits : ∀ place ∈ i.form.toList.zip w.nibbles, ∀ d ∈ digit? place.1, place.2.val = d
  operands : ∀ operand ∈ i.line.lettered, w.reading i.form operand.1 = operand.2

/-! ## Words by their fields -/

section

variable {w : Word} {kind x y n : Nibble} {nn : Byte} {nnn : Address}

theorem ofNibbles_eq_iff :
    ofNibbles kind x y n = w ↔
      w.kind.val = kind.val ∧ w.x.val = x.val ∧ w.y.val = y.val ∧ w.n.val = n.val := by
  rw [← Fin.ext_iff, ← Fin.ext_iff, ← Fin.ext_iff, ← Fin.ext_iff]
  constructor
  · rintro rfl
    simp
  · rintro ⟨rfl, rfl, rfl, rfl⟩
    exact ofNibbles_fields w

theorem ofByte_eq_iff :
    ofByte kind x nn = w ↔
      w.kind.val = kind.val ∧ w.x.val = x.val ∧ w.y.val * 16 + w.n.val = nn.toNat := by
  have := w.isLt
  have := nn.isLt
  rw [← BitVec.toNat_inj, toNat_ofByte]
  simp only [val_kind, val_x, val_y, val_n]
  omega

theorem ofAddress_eq_iff :
    ofAddress kind nnn = w ↔
      w.kind.val = kind.val ∧ (w.x.val * 16 + w.y.val) * 16 + w.n.val = nnn.toNat := by
  have := w.isLt
  have := nnn.isLt
  rw [← BitVec.toNat_inj, toNat_ofAddress]
  simp only [val_kind, val_x, val_y, val_n]
  omega

end

/-- The words of the form of an instruction are the words that are put together for it. -/
theorem standsFor_iff {w : Word} {i : Instruction} :
    w.StandsFor i ↔ ∃ spare, i.word spare = w := by
  have hparts : w.StandsFor i ↔
      (∀ place ∈ i.form.toList.zip w.nibbles, ∀ d ∈ digit? place.1, place.2.val = d) ∧
        ∀ operand ∈ i.line.lettered, w.reading i.form operand.1 = operand.2 :=
    ⟨fun h => ⟨h.digits, h.operands⟩, fun h => ⟨h.1, h.2⟩⟩
  rw [hparts]
  cases i
  -- The forms and the operands are read place by place; what is left speaks of the four nibbles.
  all_goals
    simp [Instruction.form, Instruction.line, Line.lettered, nibbles, digit?, reading,
      Instruction.word]
  case clearScreen | ret =>
    rw [← BitVec.toNat_inj]
    simp only [BitVec.toNat_ofNat]
    omega
  case shiftRight x | shiftLeft x =>
    simp only [ofNibbles_eq_iff]
    constructor
    · rintro ⟨⟨hkind, hn⟩, hx⟩
      exact ⟨w.y, hkind, hx, rfl, hn⟩
    · rintro ⟨spare, hkind, hx, -, hn⟩
      exact ⟨⟨hkind, hn⟩, hx⟩
  case jump | call | setIndex | jumpOffset =>
    rw [ofAddress_eq_iff]
    exact Iff.rfl
  case skipIfByte | skipUnlessByte | loadByte | addByte | random =>
    rw [ofByte_eq_iff]
    exact Iff.rfl
  case draw =>
    rw [ofNibbles_eq_iff]
    exact Iff.rfl
  case skipIfSame | copy | or | and | xor | add | sub | subFrom | skipIfDiffer =>
    rw [ofNibbles_eq_iff]
    constructor
    · rintro ⟨⟨hkind, hn⟩, hx, hy⟩
      exact ⟨hkind, hx, hy, hn⟩
    · rintro ⟨hkind, hx, hy, hn⟩
      exact ⟨⟨hkind, hn⟩, hx, hy⟩
  all_goals
    rw [ofByte_eq_iff]
    simp only [val_kind, val_x, val_y, val_n, BitVec.toNat_ofNat]
    omega

end Word

namespace Instruction

/-- The operands of an instruction have as many digits as there are places for them. -/
theorem operands_lt (i : Instruction) :
    ∀ operand ∈ i.line.lettered, operand.2 < 16 ^ i.form.toList.count operand.1 := by
  cases i
  all_goals simp [form, line, Line.lettered]
  all_goals omega

/-- An instruction has one word, and sixteen if its form has a letter that is no operand. -/
theorem ncard_words (i : Instruction) :
    {w : Word | w.StandsFor i}.ncard = if i.ignoresLetter then 16 else 1 := by
  have hrange : {w : Word | w.StandsFor i} = Set.range fun spare => i.word spare :=
    Set.ext fun _ => Word.standsFor_iff
  have hshift : ∀ x n, (Set.range fun spare => Word.ofNibbles 8 x spare n).ncard = 16 := by
    intro x n
    have hinjective : Function.Injective fun spare => Word.ofNibbles 8 x spare n := by
      intro y z h
      simpa using congrArg Word.y h
    rw [Set.ncard_range_of_injective hinjective, Nat.card_eq_fintype_card, Fintype.card_fin]
  rw [hrange]
  cases i with
  | shiftRight x => exact hshift x 6
  | shiftLeft x => exact hshift x 14
  | _ => exact (congrArg Set.ncard Set.range_const).trans (Set.ncard_singleton _)

/-- Words of the groups with only a few members are refused but for these members. -/
theorem decode?_eq_none_of_kind {w : Word}
    (h : w.kind = 0 ∧ w ≠ 0x00E0 ∧ w ≠ 0x00EE ∨ (w.kind = 5 ∨ w.kind = 9) ∧ w.n ≠ 0) :
    decode? w = none := by
  rcases h with ⟨hkind, hclear, hret⟩ | ⟨hkind | hkind, hn⟩
  · have hval : w.kind.val = 0 := congrArg Fin.val hkind
    simp only [decode?, hval]
    split
    next hw => exact absurd (BitVec.eq_of_toNat_eq hw) hclear
    next hw => exact absurd (BitVec.eq_of_toNat_eq hw) hret
    next => rfl
  · rw [decode?, hkind]
    exact if_neg hn
  · rw [decode?, hkind]
    exact if_neg hn

end Instruction

theorem Machine.disassembleAt_of_instructionAt {m : Machine} {address w : Word}
    (h : m.instructionAt address = .ok w) :
    m.disassembleAt address =
      match Instruction.decode? w with
      | some i => .ok i.text
      | none => .error (.unknownOpcode w address) := by
  rw [disassembleAt, h]
  rfl

/-- A word is decoded to an instruction if and only if it stands for it: it has the digits of the
form in the table, and in the places of the letters the digits of the operands. A word is refused if
and only if it stands for no instruction, and then the fault of those who read it somewhere in
memory names this word and its place. An instruction has exactly one word, but the two shifts have
exactly sixteen; its operands fit into the places of their letters. So no word of the first group
but two is decoded, and none of the two groups that compare registers unless it ends in zero. -/
theorem decode_reads_forms :
    (∀ (w : Word) (i : Instruction), Instruction.decode? w = some i ↔ w.StandsFor i) ∧
    (∀ w : Word, Instruction.decode? w = none ↔ ∀ i, ¬ w.StandsFor i) ∧
    (∀ (m : Machine) (address w : Word), m.instructionAt address = .ok w →
      (m.disassembleAt address = .error (.unknownOpcode w address) ↔ ∀ i, ¬ w.StandsFor i)) ∧
    (∀ i : Instruction, {w : Word | w.StandsFor i}.ncard = if i.ignoresLetter then 16 else 1) ∧
    (∀ i : Instruction, ∀ operand ∈ i.line.lettered,
      operand.2 < 16 ^ i.form.toList.count operand.1) ∧
    ∀ w : Word,
      w.kind = 0 ∧ w ≠ 0x00E0 ∧ w ≠ 0x00EE ∨ (w.kind = 5 ∨ w.kind = 9) ∧ w.n ≠ 0 →
        Instruction.decode? w = none := by
  have hsome : ∀ (w : Word) (i : Instruction), Instruction.decode? w = some i ↔ w.StandsFor i :=
    fun w i => Instruction.decode?_eq_some_iff.trans Word.standsFor_iff.symm
  have hnone : ∀ w : Word, Instruction.decode? w = none ↔ ∀ i, ¬ w.StandsFor i := by
    intro w
    rw [Option.eq_none_iff_forall_ne_some]
    exact forall_congr' fun i => not_congr (hsome w i)
  refine ⟨hsome, hnone, ?_, Instruction.ncard_words, Instruction.operands_lt,
    fun _ => Instruction.decode?_eq_none_of_kind⟩
  intro m address w hw
  rw [Machine.disassembleAt_of_instructionAt hw, ← hnone]
  cases Instruction.decode? w with
  | none => simp
  | some i => simp

theorem decode_reads_forms_atUnevenComparison :
    (Machine.holding [0x5A, 0xB1]).instructionAt 0x200 = .ok 0x5AB1 ∧
      (Machine.holding [0x5A, 0xB1]).disassembleAt 0x200 = .error (.unknownOpcode 0x5AB1 0x200) ∧
      Instruction.decode? 0x5AB1 = none ∧
      Word.StandsFor 0x8AB6 (.shiftRight 0xA) ∧
      ('n', 15) ∈ (Instruction.draw 1 2 0xF).line.lettered ∧ 15 < 16 ^ "Dxyn".toList.count 'n' := by
  obtain ⟨hsome, hnone, hplaces, -, hoperands, hgroups⟩ := decode_reads_forms
  have hword : (Machine.holding [0x5A, 0xB1]).instructionAt 0x200 = .ok 0x5AB1 := by
    decide +kernel
  have hrefused : Instruction.decode? 0x5AB1 = none :=
    hgroups 0x5AB1 (.inr ⟨.inl (by decide), by decide⟩)
  have hoperand : ('n', 15) ∈ (Instruction.draw 1 2 0xF).line.lettered := by decide
  refine ⟨hword, (hplaces _ _ _ hword).mpr ((hnone _).mp hrefused), hrefused, ?_, hoperand, ?_⟩
  · exact (hsome 0x8AB6 (.shiftRight 0xA)).mp (by decide)
  · exact hoperands (.draw 1 2 0xF) _ hoperand

end Chip8
