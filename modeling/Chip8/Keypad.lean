import Chip8.Table

/-!
# The keypad

Sixteen keys, each held or not.
-/

namespace Chip8

/-- A key of the keypad. -/
abbrev Key := Nibble

/-- Which keys are held. -/
structure Keypad where
  held : Table Bool
  deriving DecidableEq

namespace Keypad

/-- No key is held. -/
def released : Keypad := ⟨Table.const false⟩

/-- Whether a key is held. -/
def isHeld (k : Keypad) (key : Key) : Bool := k.held.entry key

/-- Press or release a key. -/
def set (k : Keypad) (key : Key) (down : Bool) : Keypad := ⟨k.held.put key down⟩

/-- The held keys in ascending order. -/
def heldKeys (k : Keypad) : List Key := (List.finRange 16).filter k.isHeld

/-- The lowest key that is held. -/
def first? (k : Keypad) : Option Key := k.heldKeys.head?

@[simp] theorem isHeld_released (key : Key) : released.isHeld key = false :=
  Table.entry_const false key

theorem isHeld_set (k : Keypad) (key other : Key) (down : Bool) :
    (k.set key down).isHeld other = if key = other then down else k.isHeld other :=
  Table.entry_put k.held key other down

/-- Two keypads on which the same keys are held are the same. -/
theorem ext_isHeld {k l : Keypad} (h : ∀ key, k.isHeld key = l.isHeld key) : k = l := by
  cases k; cases l
  congr 1
  exact Table.ext_entry h

theorem mem_heldKeys {k : Keypad} {key : Key} : key ∈ k.heldKeys ↔ k.isHeld key = true := by
  simp [heldKeys]

/-- There is a lowest held key unless no key is held. -/
theorem first?_eq_none_iff {k : Keypad} : k.first? = none ↔ k = released := by
  constructor
  · intro hnone
    apply ext_isHeld
    intro key
    rw [isHeld_released, Bool.eq_false_iff]
    intro hheld
    have hmem : key ∈ k.heldKeys := mem_heldKeys.mpr hheld
    rw [List.head?_eq_none_iff.mp hnone] at hmem
    exact List.not_mem_nil hmem
  · rintro rfl
    rw [first?, heldKeys, List.filter_eq_nil_iff.mpr fun key _ => by simp]
    rfl

end Keypad

end Chip8
