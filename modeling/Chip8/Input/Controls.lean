import Chip8.Keypad

/-!
# Controls

Three flags steer the run loop: whether to stop for good, whether the machine is paused, and whether
a single step has been asked for. Together with the keypad they are all that the input and the run
loop share.
-/

namespace Chip8

/-- The flags that steer the run loop. -/
structure Controls where
  quit : Bool
  paused : Bool
  stepOnce : Bool
  deriving DecidableEq, Repr

/-- What the input writes and the run loop reads. -/
structure Shared where
  keys : Keypad
  controls : Controls
  deriving DecidableEq

namespace Controls

/-- The flags at the start: nothing has been asked for, and the machine may be paused. -/
def start (paused : Bool) : Controls := ⟨false, paused, false⟩

/-- Take a pending single step; the answer tells whether there was one. -/
def takeStep (c : Controls) : Bool × Controls := (c.stepOnce, { c with stepOnce := false })

/-- Whether an instruction may run now. While the machine is paused this takes a pending single
step; otherwise a pending step stays. -/
def mayStep (c : Controls) : Bool × Controls := if c.paused then c.takeStep else (true, c)

@[simp] theorem mayStep_of_paused {c : Controls} (h : c.paused = true) :
    c.mayStep = (c.stepOnce, { c with stepOnce := false }) := by
  simp [mayStep, takeStep, h]

@[simp] theorem mayStep_of_running {c : Controls} (h : c.paused = false) :
    c.mayStep = (true, c) := by
  simp [mayStep, h]

end Controls

end Chip8
