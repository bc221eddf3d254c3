import Chip8.Instruction.Basic

/-!
# Decoding inverts the word forms

The fields of a word that was put together from its parts are these parts. With
them, `decode?` is shown to accept exactly the words that stand for an
instruction, and to give back the instruction they stand for.
-/

namespace Chip8

namespace Word

variable (kind x y n : Nibble) (nn : Byte) (nnn : Address)

@[simp] theorem kind_ofNibbles : (ofNibbles kind x y n).kind = kind := by
  apply Fin.ext
  rw [val_kind, toNat_ofNibbles]
  omega

@[simp] theorem x_ofNibbles : (ofNibbles kind x y n).x = x := by
  apply Fin.ext
  rw [val_x, toNat_ofNibbles]
  omega

@[simp] theorem y_ofNibbles : (ofNibbles kind x y n).y = y := by
  apply Fin.ext
  rw [val_y, toNat_ofNibbles]
  omega

@[simp] theorem n_ofNibbles : (ofNibbles kind x y n).n = n := by
  apply Fin.ext
  rw [val_n, toNat_ofNibbles]
  omega

@[simp] theorem kind_ofByte : (ofByte kind x nn).kind = kind := by
  have := nn.isLt
  apply Fin.ext
  rw [val_kind, toNat_ofByte]
  omega

@[simp] theorem x_ofByte : (ofByte kind x nn).x = x := by
  have := nn.isLt
  apply Fin.ext
  rw [val_x, toNat_ofByte]
  omega

@[simp] theorem nn_ofByte : (ofByte kind x nn).nn = nn := by
  have := nn.isLt
  apply BitVec.eq_of_toNat_eq
  rw [toNat_nn, toNat_ofByte]
  omega

@[simp] theorem kind_ofAddress : (ofAddress kind nnn).kind = kind := by
  have := nnn.isLt
  apply Fin.ext
  rw [val_kind, toNat_ofAddress]
  omega

@[simp] theorem nnn_ofAddress : (ofAddress kind nnn).nnn = nnn := by
  have := nnn.isLt
  apply BitVec.eq_of_toNat_eq
  rw [toNat_nnn, toNat_ofAddress]
  omega

variable {w : Word} {kind n : Nibble} {nn : Byte}

/-- A word is its kind before its low twelve bits. -/
theorem ofAddress_fields (hkind : w.kind.val = kind.val) : ofAddress kind w.nnn = w := by
  have := w.isLt
  rw [val_kind] at hkind
  apply BitVec.eq_of_toNat_eq
  rw [toNat_ofAddress, toNat_nnn, ← hkind]
  omega

/-- A word is its kind, its first register operand and its low byte. -/
theorem ofByte_fields (hkind : w.kind.val = kind.val) (hnn : w.nn.toNat = nn.toNat) :
    ofByte kind w.x nn = w := by
  have := w.isLt
  rw [val_kind] at hkind
  rw [toNat_nn] at hnn
  apply BitVec.eq_of_toNat_eq
  rw [toNat_ofByte, val_x, ← hkind, ← hnn]
  omega

/-- A word with a selector in its last nibble is its kind, its two register operands and this
selector. -/
theorem ofNibbles_selector (hkind : w.kind.val = kind.val) (hn : w.n.val = n.val) :
    ofNibbles kind w.x w.y n = w := by
  rw [← Fin.ext hkind, ← Fin.ext hn, ofNibbles_fields]

end Word

namespace Instruction

/-- The word of an instruction is decoded to this instruction, whatever stands in the unused
nibble. -/
theorem decode?_word (i : Instruction) (spare : Nibble) : decode? (i.word spare) = some i := by
  cases i with
  | clearScreen | ret =>
      rw [word]
      decide
  | jump _ | call _ | setIndex _ | jumpOffset _ =>
      rw [word, decode?, Word.kind_ofAddress, Word.nnn_ofAddress]
      rfl
  | skipIfByte _ _ | skipUnlessByte _ _ | loadByte _ _ | addByte _ _ | random _ _ | skipIfHeld _
  | skipUnlessHeld _ | readDelay _ | awaitKey _ | setDelay _ | setSound _ | addIndex _
  | pointAtDigit _ | storeDecimal _ | storeRegisters _ | loadRegisters _ =>
      rw [word, decode?, Word.kind_ofByte, Word.x_ofByte, Word.nn_ofByte]
      rfl
  | _ =>
      rw [word, decode?, Word.kind_ofNibbles, Word.x_ofNibbles, Word.y_ofNibbles,
        Word.n_ofNibbles]
      rfl

/-- A word that is decoded is a word of the instruction it is decoded to. -/
theorem word_of_decode? {w : Word} {i : Instruction} (h : decode? w = some i) :
    i.word w.y = w := by
  unfold decode? at h
  split at h
  next =>
    -- The two words without operands are told apart by their whole value.
    split at h <;> cases h
    all_goals apply BitVec.eq_of_toNat_eq; symm; assumption
  next hkind => cases h; exact Word.ofAddress_fields hkind
  next hkind => cases h; exact Word.ofAddress_fields hkind
  next hkind => cases h; exact Word.ofByte_fields hkind rfl
  next hkind => cases h; exact Word.ofByte_fields hkind rfl
  next hkind =>
    split at h
    next hn => cases h; exact Word.ofNibbles_selector hkind (congrArg Fin.val hn)
    next => cases h
  next hkind => cases h; exact Word.ofByte_fields hkind rfl
  next hkind => cases h; exact Word.ofByte_fields hkind rfl
  next hkind =>
    split at h <;> cases h
    all_goals next hn => exact Word.ofNibbles_selector hkind hn
  next hkind =>
    split at h
    next hn => cases h; exact Word.ofNibbles_selector hkind (congrArg Fin.val hn)
    next => cases h
  next hkind => cases h; exact Word.ofAddress_fields hkind
  next hkind => cases h; exact Word.ofAddress_fields hkind
  next hkind => cases h; exact Word.ofByte_fields hkind rfl
  next hkind => cases h; exact Word.ofNibbles_selector hkind rfl
  next hkind =>
    split at h <;> cases h
    all_goals next hnn => exact Word.ofByte_fields hkind hnn
  next hkind =>
    split at h <;> cases h
    all_goals next hnn => exact Word.ofByte_fields hkind hnn
  next => cases h

/-- Decoding accepts exactly the words of the instructions. -/
theorem decode?_eq_some_iff {w : Word} {i : Instruction} :
    decode? w = some i ↔ ∃ spare, i.word spare = w := by
  constructor
  · intro h
    exact ⟨w.y, word_of_decode? h⟩
  · rintro ⟨spare, rfl⟩
    exact decode?_word i spare

/-- Decoding refuses exactly the words that are no instruction's. -/
theorem decode?_eq_none_iff {w : Word} :
    decode? w = none ↔ ∀ (i : Instruction) (spare : Nibble), i.word spare ≠ w := by
  constructor
  · intro h i spare hw
    rw [← hw, decode?_word] at h
    cases h
  · intro h
    cases hd : decode? w with
    | none => rfl
    | some i => exact absurd (word_of_decode? hd) (h i w.y)

end Instruction

end Chip8
