/-!
# The buzzer

A sound device that can be started and stopped. It is only called when its state has to change.
-/

namespace Chip8

/-- A call of the sound device. -/
inductive BuzzerCall where
  | start
  | stop
  deriving DecidableEq, Repr

/-- The state of the sound device and how often it has been called. -/
structure Buzzer where
  sounding : Bool
  starts : Nat
  stops : Nat
  deriving DecidableEq, Repr

namespace Buzzer

/-- A device that is silent and has not been called. -/
def silent : Buzzer := ⟨false, 0, 0⟩

/-- The call that makes the device sound, or be silent, if it is not so already. -/
def needed (b : Buzzer) (active : Bool) : Option BuzzerCall :=
  if active = b.sounding then none else some (if active then .start else .stop)

/-- The number of a call among the calls of its kind, counted from one, if it is made next. -/
def nextNumber (b : Buzzer) : BuzzerCall → Nat
  | .start => b.starts + 1
  | .stop => b.stops + 1

/-- Call the device. The call counts in any case; the device changes only if the call goes well. -/
def call (b : Buzzer) (c : BuzzerCall) (goesWell : Bool) : Buzzer :=
  let b := if goesWell then { b with sounding := c == .start } else b
  match c with
  | .start => { b with starts := b.starts + 1 }
  | .stop => { b with stops := b.stops + 1 }

/-- Make the device sound or be silent, each call going well. -/
def sync (b : Buzzer) (active : Bool) : Buzzer :=
  match b.needed active with
  | some c => b.call c true
  | none => b

@[simp] theorem sounding_sync (b : Buzzer) (active : Bool) : (b.sync active).sounding = active := by
  unfold sync needed call
  cases active <;> cases h : b.sounding <;> simp [h]

end Buzzer

end Chip8
