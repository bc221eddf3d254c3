import Chip8.Word

/-!
# Tables

A table has an entry for every nibble: the registers, the keys of the keypad and the glyphs of the
font are such tables. Writing an entry leaves the others as they are, and a table is determined by
its entries.
-/

namespace Chip8

/-- An entry for every nibble. -/
abbrev Table (α : Type) := Vector α 16

namespace Table

variable {α : Type}

/-- The same entry for every nibble. -/
def const (a : α) : Table α := Vector.replicate 16 a

/-- The table with the given entries. -/
def build (f : Nibble → α) : Table α := Vector.ofFn f

/-- The entry of a nibble. -/
def entry (t : Table α) (x : Nibble) : α := t[x.val]

/-- The table with another entry for a nibble. -/
def put (t : Table α) (x : Nibble) (a : α) : Table α := t.set x.val a

@[simp] theorem entry_const (a : α) (x : Nibble) : (const a).entry x = a := by
  simp [const, entry]

@[simp] theorem entry_build (f : Nibble → α) (x : Nibble) : (build f).entry x = f x := by
  simp [build, entry]

theorem entry_put (t : Table α) (x y : Nibble) (a : α) :
    (t.put x a).entry y = if x = y then a else t.entry y := by
  unfold put entry
  rw [Vector.getElem_set]
  by_cases h : x = y
  · rw [if_pos h, if_pos (congrArg Fin.val h)]
  · rw [if_neg h, if_neg fun e => h (Fin.ext e)]

/-- Two tables with the same entries are the same. -/
theorem ext_entry {t u : Table α} (h : ∀ x, t.entry x = u.entry x) : t = u := by
  apply Vector.ext
  intro i hi
  exact h ⟨i, hi⟩

end Table

end Chip8
