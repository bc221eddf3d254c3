import Chip8.Word

/-!
# The timers

The delay and the sound timer count down sixty times a second, whatever the rate of instructions.
Whoever updates them says what time it is; if a full period has gone by since the last decay, both
drop by one, and never below zero. However late the update, it is one drop.
-/

namespace Chip8

/-- A reading of the clock, in nanoseconds from some fixed instant. -/
abbrev Instant := Int

/-- The nanoseconds from the first instant to the second, and zero if the second is earlier. -/
def Instant.elapsed (start stop : Instant) : Nat := (stop - start).toNat

/-- The delay and the sound timer. -/
structure Timers where
  delay : Byte
  sound : Byte
  lastDecay : Instant
  deriving DecidableEq, Repr

namespace Timers

/-- The nanoseconds between two decays. -/
def period : Nat := 1000000000 / 60

/-- Both timers at zero, counting from the given instant. -/
def start (now : Instant) : Timers := ⟨0, 0, now⟩

/-- One less, and zero if there is nothing left. -/
def countDown (b : Byte) : Byte := if b = 0 then 0 else b - 1

/-- Let both timers decay if a period has gone by; the answer tells whether they did. -/
def update (t : Timers) (now : Instant) : Timers × Bool :=
  if t.lastDecay.elapsed now < period then (t, false)
  else (⟨countDown t.delay, countDown t.sound, now⟩, true)

theorem toNat_countDown (b : Byte) : (countDown b).toNat = b.toNat - 1 := by
  unfold countDown
  split
  next h => simp [h]
  next h =>
    have : b.toNat ≠ 0 := fun e => h (BitVec.eq_of_toNat_eq (by simpa using e))
    have := b.isLt
    rw [BitVec.toNat_sub, show (1 : Byte).toNat = 1 from rfl]
    omega

end Timers

end Chip8
