/-!
# Hexadecimal numbers

Addresses, words and bytes are written with upper-case hexadecimal digits and at least a given
number of places. The main statements say how long such a text is and that a text of fixed length
determines the number.
-/

namespace Chip8.Hex

/-- The upper-case digit of a value below sixteen. -/
def digit (d : Nat) : Char :=
  if d < 10 then Char.ofNat (48 + d) else Char.ofNat (55 + d)

/-- Exactly `width` digits of `n`, the most significant first. -/
def fixed : (width : Nat) → (n : Nat) → List Char
  | 0, _ => []
  | width + 1, n => fixed width (n / 16) ++ [digit (n % 16)]

/-- How many digits the shortest text of `n` has. -/
def count (n : Nat) : Nat := n.log2 / 4 + 1

/-- The digits of `n`, filled up with zeros to at least `width` places. -/
def padded (width n : Nat) : String := String.ofList (fixed (max width (count n)) n)

@[simp] theorem length_fixed (width n : Nat) : (fixed width n).length = width := by
  induction width generalizing n with
  | zero => rfl
  | succ width ih => simp [fixed, ih]

/-- Distinct digits are written differently. -/
theorem digit_injective : ∀ a < 16, ∀ b < 16, digit a = digit b → a = b := by decide

/-- Numbers that fit into `width` places are told apart by their digits. -/
theorem fixed_injective {width a b : Nat} (ha : a < Nat.pow 16 width) (hb : b < Nat.pow 16 width)
    (h : fixed width a = fixed width b) : a = b := by
  induction width generalizing a b with
  | zero =>
    have : a < 1 := ha
    have : b < 1 := hb
    omega
  | succ width ih =>
    have ha : a < Nat.pow 16 width * 16 := ha
    have hb : b < Nat.pow 16 width * 16 := hb
    simp only [fixed] at h
    obtain ⟨hrest, hlast⟩ := List.append_inj' h rfl
    have hdiv := ih (a := a / 16) (b := b / 16) (by omega) (by omega) hrest
    have hmod := digit_injective (a % 16) (by omega) (b % 16) (by omega) (by simpa using hlast)
    omega

/-- A number that fits into `width` places is written with exactly that many digits. -/
theorem count_le_of_lt {width n : Nat} (hw : 0 < width) (h : n < Nat.pow 16 width) :
    count n ≤ width := by
  unfold count
  by_cases hn : n = 0
  · subst hn; simp; omega
  · have hlog : n.log2 < 4 * width := by
      rw [Nat.log2_lt hn, Nat.pow_mul]
      exact h
    omega

theorem padded_of_lt {width n : Nat} (hw : 0 < width) (h : n < Nat.pow 16 width) :
    padded width n = String.ofList (fixed width n) := by
  rw [padded, Nat.max_eq_left (count_le_of_lt hw h)]

/-- The digits. -/
def digits : List Char := "0123456789ABCDEF".toList

theorem digit_mem_digits : ∀ d < 16, digit d ∈ digits := by decide

theorem mem_digits_of_mem_fixed {width n : Nat} {c : Char} (h : c ∈ fixed width n) :
    c ∈ digits := by
  induction width generalizing n with
  | zero => cases h
  | succ width ih =>
    rcases List.mem_append.mp h with hrest | hlast
    · exact ih hrest
    · obtain rfl := List.mem_singleton.mp hlast
      exact digit_mem_digits (n % 16) (by omega)

theorem mem_digits_of_mem_padded {width n : Nat} {c : Char} (h : c ∈ (padded width n).toList) :
    c ∈ digits := by
  rw [padded, String.toList_ofList] at h
  exact mem_digits_of_mem_fixed h

theorem length_padded (width n : Nat) : (padded width n).toList.length = max width (count n) := by
  rw [padded, String.toList_ofList, length_fixed]

theorem lt_pow_count (n : Nat) : n < Nat.pow 16 (count n) := by
  have hlog : n.log2 + 1 ≤ 4 * count n := by
    unfold count
    omega
  calc
    n < 2 ^ (n.log2 + 1) := Nat.lt_log2_self
    _ ≤ 2 ^ (4 * count n) := Nat.pow_le_pow_right (by decide) hlog
    _ = Nat.pow 16 (count n) := Nat.pow_mul 2 4 (count n)

/-- Numbers of any size are told apart by their texts. -/
theorem padded_injective {width a b : Nat} (h : padded width a = padded width b) : a = b := by
  have hwidth : max width (count a) = max width (count b) := by
    rw [← length_padded, ← length_padded, h]
  have hfits : ∀ n, n < Nat.pow 16 (max width (count n)) := fun n =>
    Nat.lt_of_lt_of_le (lt_pow_count n) (Nat.pow_le_pow_right (by decide) (Nat.le_max_right _ _))
  have hb := hfits b
  have hdigits := congrArg String.toList h
  rw [padded, padded, String.toList_ofList, String.toList_ofList, ← hwidth] at hdigits
  rw [← hwidth] at hb
  exact fixed_injective (hfits a) hb hdigits

end Chip8.Hex
