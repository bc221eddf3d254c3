import Chip8.Word

/-!
# Decimal digits of a byte

A byte is turned into three decimal digits by shifting its bits, highest first, into three
four-bit lanes. Before a shift, a lane that holds five or more is raised by three, so that the
shift carries into the next lane.
-/

namespace Chip8.Decimal

/-- Three four-bit lanes: hundreds, tens and ones from the left. -/
abbrev Lanes := BitVec 12

/-- Raise the lane at the given place by three if it holds five or more. -/
def adjust (lanes : Lanes) (place : Nat) : Lanes :=
  if (lanes >>> place) &&& 0xF ≥ 5 then lanes + (3 <<< place) else lanes

/-- Adjust all lanes and shift a bit in from the right. -/
def shiftIn (lanes : Lanes) (bit : Bool) : Lanes :=
  let lanes := [0, 4, 8].foldl adjust lanes
  (lanes <<< 1) ||| (if bit then 1 else 0)

/-- The lanes after all eight bits of a byte. -/
def lanes (b : Byte) : Lanes := (List.range 8).foldl (fun acc k => shiftIn acc (b.getMsbD k)) 0

/-- The hundreds, tens and ones of a byte. -/
def digits (b : Byte) : List Byte :=
  [8, 4, 0].map fun place => ((lanes b >>> place) &&& 0xF).setWidth 8

/-! ## The digits that come out -/

/-- The lanes hold decimal digits, and these are the digits of a number. -/
def Holds (lanes : Lanes) (n : Nat) : Prop :=
  ∃ h t o, t ≤ 9 ∧ o ≤ 9 ∧ lanes.toNat = 256 * h + 16 * t + o ∧ n = 100 * h + 10 * t + o

/-- What becomes of a digit before a shift. -/
def raised (d : Nat) : Nat := if 5 ≤ d then d + 3 else d

/-- A raised digit, when it is doubled, carries a ten as sixteen. -/
theorem two_mul_raised {d : Nat} (h : d ≤ 9) : 2 * raised d = 16 * (d / 5) + 2 * d % 10 := by
  unfold raised
  split <;> omega

theorem toNat_lane (lanes : Lanes) (place : Nat) :
    ((lanes >>> place) &&& 0xF).toNat = (lanes.toNat >>> place) % 16 := by
  rw [BitVec.toNat_and, BitVec.toNat_ushiftRight]
  exact Nat.and_two_pow_sub_one_eq_mod _ 4

theorem toNat_adjust (lanes : Lanes) (place : Nat) :
    (adjust lanes place).toNat =
      if 5 ≤ (lanes.toNat >>> place) % 16 then (lanes.toNat + 3 <<< place) % 4096
      else lanes.toNat := by
  have hfive : (lanes >>> place) &&& 0xF ≥ 5 ↔ 5 ≤ (lanes.toNat >>> place) % 16 := by
    rw [← toNat_lane]
    exact BitVec.le_def
  rw [adjust]
  by_cases hlane : 5 ≤ (lanes.toNat >>> place) % 16
  · rw [if_pos hlane, if_pos (hfive.mpr hlane), BitVec.toNat_add, BitVec.natCast_eq_ofNat,
      BitVec.toNat_ofNat, Nat.add_mod_mod]
  · rw [if_neg hlane, if_neg (mt hfive.mp hlane)]

theorem toNat_shift (lanes : Lanes) (bit : Bool) :
    ((lanes <<< 1) ||| (if bit then 1 else 0)).toNat = 2 * lanes.toNat % 4096 + bit.toNat := by
  have hshift : (lanes <<< 1).toNat = (lanes.toNat % 2048) <<< 1 := by
    rw [BitVec.toNat_shiftLeft, Nat.shiftLeft_eq, Nat.shiftLeft_eq]
    omega
  have hbit : (if bit then 1 else 0 : Lanes).toNat = bit.toNat := by cases bit <;> rfl
  rw [BitVec.toNat_or, hshift, hbit, ← Nat.shiftLeft_add_eq_or_of_lt (Bool.toNat_lt bit),
    Nat.shiftLeft_eq]
  omega

/-- Each lane is raised on its own, as long as the highest one holds no five. -/
theorem toNat_adjust_all {lanes : Lanes} {h t o : Nat}
    (hlanes : lanes.toNat = 256 * h + 16 * t + o) (hh : h ≤ 4) (ht : t ≤ 9) (ho : o ≤ 9) :
    ([0, 4, 8].foldl adjust lanes).toNat = 256 * h + 16 * raised t + raised o := by
  have hones : (adjust lanes 0).toNat = 256 * h + 16 * t + raised o := by
    rw [toNat_adjust, hlanes, raised]
    split <;> split <;> omega
  have htens : (adjust (adjust lanes 0) 4).toNat = 256 * h + 16 * raised t + raised o := by
    rw [toNat_adjust, hones, raised, raised]
    split <;> split <;> split <;> omega
  have hhundreds : ¬ 5 ≤ ((256 * h + 16 * raised t + raised o) >>> 8) % 16 := by
    rw [raised, raised]
    split <;> split <;> omega
  simp only [List.foldl_cons, List.foldl_nil]
  rw [toNat_adjust, htens, if_neg hhundreds]

/-- Shifting a bit in doubles the number and adds the bit. -/
theorem Holds.shiftIn {lanes : Lanes} {n : Nat} (h : Holds lanes n) (hn : n < 500) (bit : Bool) :
    Holds (shiftIn lanes bit) (2 * n + bit.toNat) := by
  obtain ⟨h, t, o, ht, ho, hlanes, rfl⟩ := h
  have hbit := Bool.toNat_le bit
  have hraised := toNat_adjust_all hlanes (by omega) ht ho
  have hdouble : 2 * (256 * h + 16 * raised t + raised o) =
      256 * (2 * h + t / 5) + 16 * (2 * t % 10 + o / 5) + 2 * o % 10 := by
    have htens := two_mul_raised ht
    have hones := two_mul_raised ho
    omega
  refine ⟨2 * h + t / 5, 2 * t % 10 + o / 5, 2 * o % 10 + bit.toNat, ?_, ?_, ?_, ?_⟩
  · omega
  · omega
  · rw [Decimal.shiftIn, toNat_shift, hraised, hdouble, Nat.mod_eq_of_lt (by omega), Nat.add_assoc]
  · omega

/-- After its first `k` bits the lanes hold what these bits stand for. -/
theorem holds_foldl_shiftIn (b : Byte) {k : Nat} (hk : k ≤ 8) :
    Holds ((List.range k).foldl (fun acc k => shiftIn acc (b.getMsbD k)) 0)
      (b.toNat >>> (8 - k)) := by
  have hb := b.isLt
  induction k with
  | zero =>
      rw [Nat.shiftRight_eq_div_pow, Nat.div_eq_of_lt hb]
      exact ⟨0, 0, 0, by decide, by decide, rfl, rfl⟩
  | succ k ih =>
      have hholds := ih (Nat.le_of_succ_le hk)
      have hsmall : b.toNat >>> (8 - k) < 500 :=
        Nat.lt_of_le_of_lt (Nat.shiftRight_le ..) (by omega)
      have hbit : (b.getMsbD k).toNat = (b.toNat >>> (8 - (k + 1))) % 2 := by
        rw [BitVec.getMsbD_eq_getLsbD, decide_eq_true (by omega), Bool.true_and,
          Nat.shiftRight_eq_div_pow, ← Nat.toNat_testBit, show 8 - (k + 1) = 8 - 1 - k by omega]
        rfl
      have hdouble : b.toNat >>> (8 - k) = (b.toNat >>> (8 - (k + 1))) / 2 := by
        rw [show 8 - k = (8 - (k + 1)) + 1 by omega, Nat.shiftRight_succ]
      have hnext := hholds.shiftIn hsmall (b.getMsbD k)
      rw [hbit, hdouble, Nat.div_add_mod] at hnext
      rw [List.range_succ, List.foldl_append]
      exact hnext

/-- Decimal digits are read off in the same way as lanes. -/
theorem lanes_eq_digits {h t o : Nat} (hsmall : 100 * h + 10 * t + o < 256) (ht : t ≤ 9)
    (ho : o ≤ 9) :
    (256 * h + 16 * t + o) / 256 % 16 = (100 * h + 10 * t + o) / 100 ∧
      (256 * h + 16 * t + o) / 16 % 16 = (100 * h + 10 * t + o) / 10 % 10 ∧
      (256 * h + 16 * t + o) % 16 = (100 * h + 10 * t + o) % 10 := by
  have hhundreds : (256 * h + 16 * t + o) / 256 = h ∧ (100 * h + 10 * t + o) / 100 = h := by omega
  have htens : (256 * h + 16 * t + o) / 16 = 16 * h + t ∧
      (100 * h + 10 * t + o) / 10 = 10 * h + t := by omega
  rw [hhundreds.1, hhundreds.2, htens.1, htens.2]
  omega

/-- The lanes end up with the quotients and remainders that define the digits. -/
theorem digits_eq : ∀ b : Byte,
    digits b = [b.toNat / 100, b.toNat / 10 % 10, b.toNat % 10].map (BitVec.ofNat 8) := by
  intro b
  have hb := b.isLt
  obtain ⟨h, t, o, ht, ho, hlanes, hvalue⟩ := holds_foldl_shiftIn b (Nat.le_refl 8)
  rw [Nat.sub_self, Nat.shiftRight_zero] at hvalue
  have hlane : ∀ place, (((lanes b >>> place) &&& 0xF).setWidth 8 : Byte) =
      BitVec.ofNat 8 (((256 * h + 16 * t + o) >>> place) % 16) := by
    intro place
    apply BitVec.eq_of_toNat_eq
    rw [BitVec.toNat_setWidth, BitVec.toNat_ofNat, toNat_lane, ← hlanes]
    rfl
  rw [hvalue] at hb ⊢
  obtain ⟨hhundreds, htens, hones⟩ := lanes_eq_digits hb ht ho
  simp only [digits, List.map_cons, List.map_nil, hlane, Nat.shiftRight_eq_div_pow, Nat.reducePow,
    Nat.div_one, hhundreds, htens, hones]

end Chip8.Decimal
