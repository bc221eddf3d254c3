import Chip8.Proofs.StraightLine

/-!
# Arithmetic on registers

An operation on two registers leaves a result in the first of them and a flag in the flag register.
`Operator.Balanced` says over the integers what the two have to do with the values that the registers
held before. Both values are read before anything is written, and the flag is written last: whichever
of the registers is the flag register, the flag depends on the two values alone, and it is the flag
that stays there.
-/

namespace Chip8

/-- The operations on registers that leave a flag beside their result. -/
inductive Operator where
  | or
  | and
  | xor
  | add
  | sub
  | shiftRight
  | subFrom
  | shiftLeft
  deriving DecidableEq

namespace Operator

/-- The instruction for an operation on two registers. A shift has no use for the second one. -/
def instruction (x y : Nibble) : Operator → Instruction
  | or => .or x y
  | and => .and x y
  | xor => .xor x y
  | add => .add x y
  | sub => .sub x y
  | shiftRight => .shiftRight x
  | subFrom => .subFrom x y
  | shiftLeft => .shiftLeft x

/-- The flag that an operation on two values leaves: a carry, the absence of a borrow, or the bit that
a shift has lost. -/
def flag (a b : Nat) : Operator → Nat
  | or | and | xor => 0
  | add => if 256 ≤ a + b then 1 else 0
  | sub => if b ≤ a then 1 else 0
  | shiftRight => a % 2
  | subFrom => if a ≤ b then 1 else 0
  | shiftLeft => a / 128

/-- What the result and the flag of an operation have to do with its two values. -/
def Balanced (a b result flag : Byte) : Operator → Prop
  | or => ∀ k, result.getLsbD k = (a.getLsbD k || b.getLsbD k)
  | and => ∀ k, result.getLsbD k = (a.getLsbD k && b.getLsbD k)
  | xor => ∀ k, result.getLsbD k = (a.getLsbD k ^^ b.getLsbD k)
  | add => (256 * flag.toNat + result.toNat : Int) = a.toNat + b.toNat
  | sub => (result.toNat + b.toNat : Int) = a.toNat + 256 * (1 - flag.toNat)
  | shiftRight => (2 * result.toNat + flag.toNat : Int) = a.toNat
  | subFrom => (result.toNat + a.toNat : Int) = b.toNat + 256 * (1 - flag.toNat)
  | shiftLeft => (256 * flag.toNat + result.toNat : Int) = 2 * a.toNat

/-- The result and the flag that the machine computes. -/
def compute (a b : Byte) : Operator → Byte × Byte
  | or => (a ||| b, 0)
  | and => (a &&& b, 0)
  | xor => (a ^^^ b, 0)
  | add => Machine.addFlagged a b
  | sub => Machine.subFlagged a b
  | shiftRight => Machine.shiftRightFlagged a
  | subFrom => Machine.subFlagged b a
  | shiftLeft => Machine.shiftLeftFlagged a

/-! ## Results and flags over the integers -/

theorem toNat_ite_one_zero (p : Prop) [Decidable p] :
    (if p then 1 else 0 : Byte).toNat = if p then 1 else 0 := by
  split <;> rfl

theorem toNat_and_one (a : Byte) : (a &&& 1).toNat = a.toNat % 2 := by
  rw [BitVec.toNat_and]
  exact Nat.and_one_is_mod a.toNat

/-- The values of a flag are those of its rule. -/
theorem toNat_flag_compute (op : Operator) (a b : Byte) :
    (op.compute a b).2.toNat = op.flag a.toNat b.toNat := by
  cases op with
  | or | and | xor => rfl
  | add | sub | subFrom => exact toNat_ite_one_zero _
  | shiftRight => exact toNat_and_one a
  | shiftLeft =>
      change (a >>> 7).toNat = a.toNat / 128
      rw [BitVec.toNat_ushiftRight, Nat.shiftRight_eq_div_pow]

theorem flag_le_one (op : Operator) {a : Nat} (ha : a < 256) (b : Nat) : op.flag a b ≤ 1 := by
  cases op with
  | or | and | xor => exact Nat.zero_le 1
  | add | sub | subFrom =>
      simp only [flag]
      split <;> omega
  | shiftRight | shiftLeft =>
      simp only [flag]
      omega

/-- A sum that has no room in a byte has carried 256. -/
theorem toNat_add_carry (a b : Byte) :
    (256 * add.flag a.toNat b.toNat + (a + b).toNat : Int) = a.toNat + b.toNat := by
  have := a.isLt
  have := b.isLt
  rw [BitVec.toNat_add, flag]
  split <;> omega

/-- A difference that would be negative has borrowed 256. -/
theorem toNat_sub_borrow (a b : Byte) :
    ((a - b).toNat + b.toNat : Int) = a.toNat + 256 * (1 - sub.flag a.toNat b.toNat) := by
  have := a.isLt
  have := b.isLt
  rw [BitVec.toNat_sub, flag]
  split <;> omega

/-- The bit that a shift has lost is the remainder, or the carry. -/
theorem toNat_shiftRight (a b : Byte) :
    (2 * (a >>> 1).toNat + shiftRight.flag a.toNat b.toNat : Int) = a.toNat := by
  rw [BitVec.toNat_ushiftRight, Nat.shiftRight_eq_div_pow, flag]
  omega

theorem toNat_shiftLeft (a b : Byte) :
    (256 * shiftLeft.flag a.toNat b.toNat + (a <<< 1).toNat : Int) = 2 * a.toNat := by
  have := a.isLt
  rw [BitVec.toNat_shiftLeft, Nat.shiftLeft_eq, flag]
  omega

/-- The result and the flag of every operation balance its values. -/
theorem balanced_compute (op : Operator) (a b : Byte) :
    op.Balanced a b (op.compute a b).1 (op.compute a b).2 := by
  cases op with
  | or => exact fun k => BitVec.getLsbD_or
  | and => exact fun k => BitVec.getLsbD_and
  | xor => exact fun k => BitVec.getLsbD_xor
  | add =>
      rw [Balanced, toNat_flag_compute]
      exact toNat_add_carry a b
  | sub =>
      rw [Balanced, toNat_flag_compute]
      exact toNat_sub_borrow a b
  | subFrom =>
      rw [Balanced, toNat_flag_compute]
      exact toNat_sub_borrow b a
  | shiftRight =>
      rw [Balanced, toNat_flag_compute]
      exact toNat_shiftRight a b
  | shiftLeft =>
      rw [Balanced, toNat_flag_compute]
      exact toNat_shiftLeft a b

end Operator

namespace Machine

/-- What an operation on two registers makes of the registers. The flag is told by the values that the
two held before, and so is the result unless the flag has taken its place. -/
structure Operated (m : Machine) (op : Operator) (x y : Nibble) (m' : Machine) : Prop where
  flag_eq : (m'.register flag).toNat = op.flag (m.register x).toNat (m.register y).toNat
  flag_bit : m'.register flag = 0 ∨ m'.register flag = 1
  balanced : x ≠ flag →
    op.Balanced (m.register x) (m.register y) (m'.register x) (m'.register flag)
  kept : ∀ r, r ≠ x → r ≠ flag → m'.register r = m.register r

/-- A register has been given a value, and all others are as they were. -/
structure Assigned (m : Machine) (x : Nibble) (n : Nat) (m' : Machine) : Prop where
  value : (m'.register x).toNat = n
  kept : ∀ r, r ≠ x → m'.register r = m.register r

theorem register_setWithFlag_flag (m : Machine) (x : Nibble) (result b : Byte) :
    (m.setWithFlag x result b).register flag = b :=
  register_setRegister_self ..

theorem register_setWithFlag_of_ne (m : Machine) {x r : Nibble} (hr : r ≠ flag)
    (result b : Byte) :
    (m.setWithFlag x result b).register r = if x = r then result else m.register r := by
  rw [setWithFlag, register_setRegister, if_neg hr.symm, register_setRegister]

theorem operated_setWithFlag (m : Machine) (op : Operator) (x y : Nibble) :
    let computed := op.compute (m.register x) (m.register y)
    m.Operated op x y (m.setWithFlag x computed.1 computed.2) := by
  intro computed
  have hflag : computed.2.toNat = op.flag (m.register x).toNat (m.register y).toNat :=
    op.toNat_flag_compute ..
  constructor
  case flag_eq => rw [register_setWithFlag_flag, hflag]
  case flag_bit =>
    have hle := op.flag_le_one (m.register x).isLt (m.register y).toNat
    rw [register_setWithFlag_flag]
    rcases Nat.le_one_iff_eq_zero_or_eq_one.mp (hflag ▸ hle) with hzero | hone
    · exact .inl (BitVec.eq_of_toNat_eq hzero)
    · exact .inr (BitVec.eq_of_toNat_eq hone)
  case balanced =>
    intro hx
    rw [register_setWithFlag_flag, register_setWithFlag_of_ne m hx, if_pos rfl]
    exact op.balanced_compute _ _
  case kept =>
    intro r hrx hr
    rw [register_setWithFlag_of_ne m hr, if_neg hrx.symm]

theorem assigned_setRegister (m : Machine) (x : Nibble) (b : Byte) :
    m.Assigned x b.toNat (m.setRegister x b) where
  value := by rw [register_setRegister_self]
  kept r hr := by rw [register_setRegister, if_neg hr.symm]

theorem machine_execute_operator (m : Machine) (address : Word) (op : Operator) (x y : Nibble) :
    let computed := op.compute (m.register x) (m.register y)
    (m.execute address (op.instruction x y)).machine =
      m.setWithFlag x computed.1 computed.2 := by
  cases op <;> rfl

/-- Arithmetic on any registers, the flag register among them. The flag that an operation leaves is zero
or one and depends on the two values alone; the result balances the values unless the flag has
overwritten it; and no other register changes. A copy and the addition of a byte, which leaves no
flag, change the one register that they assign. -/
theorem operations_balance (m : Machine) (x y : Nibble) :
    (∀ op : Operator, m.Ensures (op.instruction x y) (m.Operated op x y)) ∧
    m.Ensures (.copy x y) (m.Assigned x (m.register y).toNat) ∧
    ∀ value : Byte, m.Ensures (.addByte x value)
      (m.Assigned x (((m.register x).toNat + value.toNat) % 256)) := by
  refine ⟨fun op => ?_, ?_, fun value => ?_⟩
  · have hstraight : (op.instruction x y).isStraight = true := by cases op <;> rfl
    apply ensures_of_isStraight hstraight
    rw [machine_execute_operator]
    exact m.operated_setWithFlag op x y
  · apply ensures_of_isStraight rfl
    exact m.assigned_setRegister x (m.register y)
  · apply ensures_of_isStraight rfl
    have hassigned := m.assigned_setRegister x (m.register x + value)
    rw [BitVec.toNat_add] at hassigned
    exact hassigned

/-- A machine that is about to add the flag register to itself. -/
def atFlagSum : Machine := { holding [0x8F, 0xF4] with v := Table.const 0x90 }

theorem operations_balance_atFlagSum :
    atFlagSum.Finds (Operator.add.instruction flag flag) ∧
      ∃ status, (atFlagSum.step 0).answer = .ok status ∧
        (atFlagSum.step 0).machine.register flag = 1 := by
  have hfinds : atFlagSum.Finds (Operator.add.instruction flag flag) :=
    finds_of_decode? (by decide +kernel) (by decide +kernel)
  obtain ⟨next, status, hoperated, hanswer, hmachine⟩ :=
    ((operations_balance atFlagSum flag flag).1 .add).step hfinds 0
  refine ⟨hfinds, status, hanswer, ?_⟩
  rw [hmachine]
  -- The sum is lost, and its carry stays.
  exact BitVec.eq_of_toNat_eq hoperated.flag_eq

end Machine

end Chip8
