import Chip8.Word

/-!
# The call stack

Return addresses are kept in sixteen slots, of which the first `depth` are live. Running out of
slots, or of live addresses, is an answer of its own and changes nothing.

The view of a stack is `toList`, the live addresses with the most recent first. A push puts its
address in front of them and a pop takes the first one off.
-/

namespace Chip8

/-- The return addresses of the calls that are under way. -/
structure CallStack where
  slots : Vector Word 16
  depth : Nat
  depth_le : depth ≤ 16 := by omega
  deriving DecidableEq

namespace CallStack

/-- The stack with no live address. -/
def empty : CallStack := { slots := Vector.replicate 16 0, depth := 0 }

/-- The live addresses, the most recent first. -/
def toList (s : CallStack) : List Word := (s.slots.toList.take s.depth).reverse

/-- Put an address on top, unless all slots are live. -/
def push? (s : CallStack) (a : Word) : Option CallStack :=
  if h : s.depth < 16 then
    some { slots := s.slots.set s.depth a, depth := s.depth + 1 }
  else none

/-- Take the address on top, if there is one. -/
def pop? (s : CallStack) : Option (Word × CallStack) :=
  if h : 0 < s.depth then
    some (s.slots.get ⟨s.depth - 1, by have := s.depth_le; omega⟩,
      { slots := s.slots, depth := s.depth - 1, depth_le := by have := s.depth_le; omega })
  else none

@[simp] theorem length_toList (s : CallStack) : s.toList.length = s.depth := by
  have := s.depth_le
  simp [toList]
  omega

theorem toList_eq_nil_iff {s : CallStack} : s.toList = [] ↔ s.depth = 0 := by
  rw [← List.length_eq_zero_iff, length_toList]

theorem depth_eq_of_toList {s t : CallStack} (h : s.toList = t.toList) : s.depth = t.depth := by
  rw [← length_toList, h, length_toList]

@[simp] theorem toList_empty : empty.toList = [] := by
  simp [toList, empty]

/-- A push fails exactly when all slots are live. -/
theorem push?_eq_none_iff {s : CallStack} {a : Word} : s.push? a = none ↔ s.depth = 16 := by
  have := s.depth_le
  unfold push?
  split
  next h => simp only [reduceCtorEq, false_iff]; omega
  next h => simp only [true_iff]; omega

/-- A pop fails exactly when no address is live. -/
theorem pop?_eq_none_iff {s : CallStack} : s.pop? = none ↔ s.depth = 0 := by
  unfold pop?
  split
  next h => simp only [reduceCtorEq, false_iff]; omega
  next h => simp only [true_iff]; omega

theorem depth_ne_of_push? {s t : CallStack} {a : Word} (h : s.push? a = some t) :
    s.depth ≠ 16 := by
  intro hfull
  rw [push?_eq_none_iff.mpr hfull] at h
  cases h

theorem depth_ne_of_pop? {s : CallStack} {p : Word × CallStack} (h : s.pop? = some p) :
    s.depth ≠ 0 := by
  intro hempty
  rw [pop?_eq_none_iff.mpr hempty] at h
  cases h

/-- A push puts its address in front of the live ones. -/
theorem toList_of_push? {s t : CallStack} {a : Word} (h : s.push? a = some t) :
    t.toList = a :: s.toList := by
  unfold push? at h
  split at h
  next hd =>
    obtain rfl := Option.some.inj h
    have hlen : s.depth < (s.slots.toList.set s.depth a).length := by simp [hd]
    simp only [toList, Vector.toList_set]
    rw [List.take_succ_eq_append_getElem hlen, List.getElem_set_self,
      List.take_set_of_le (Nat.le_refl _), List.reverse_append]
    rfl
  next => cases h

/-- A pop answers the first of the live addresses and leaves the others. -/
theorem toList_of_pop? {s t : CallStack} {a : Word} (h : s.pop? = some (a, t)) :
    s.toList = a :: t.toList := by
  unfold pop? at h
  split at h
  next hd =>
    obtain ⟨rfl, rfl⟩ := Prod.mk.inj (Option.some.inj h)
    have hlen : s.depth - 1 < s.slots.toList.length := by
      have := s.depth_le
      simp
      omega
    have htake := List.take_succ_eq_append_getElem hlen
    rw [show s.depth - 1 + 1 = s.depth by omega] at htake
    simp only [toList]
    rw [htake, List.reverse_append]
    rfl
  next => cases h

/-- A push as it shows in the live addresses. -/
theorem map_toList_push? (s : CallStack) (a : Word) :
    (s.push? a).map toList = if s.toList.length = 16 then none else some (a :: s.toList) := by
  rw [length_toList]
  cases h : s.push? a with
  | none => rw [if_pos (push?_eq_none_iff.mp h)]; rfl
  | some t =>
    rw [if_neg (depth_ne_of_push? h), Option.map_some, toList_of_push? h]

/-- A pop as it shows in the live addresses. -/
theorem map_toList_pop? (s : CallStack) :
    s.pop?.map (fun p => (p.1, p.2.toList)) = s.toList.head?.map fun a => (a, s.toList.tail) := by
  cases h : s.pop? with
  | none =>
    rw [toList_eq_nil_iff.mpr (pop?_eq_none_iff.mp h)]
    rfl
  | some p => rw [toList_of_pop? (a := p.1) (t := p.2) h]; rfl

end CallStack

end Chip8
