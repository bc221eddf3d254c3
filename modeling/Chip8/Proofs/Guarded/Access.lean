import Chip8.Machine.Operation

/-!
# Guarded accesses

Each access to the parts of a machine is stated once more with its index, its
bounds and its arithmetic checked on natural numbers. A guarded access that goes
out of range, copies between slices of different lengths, or leaves the width of
its numbers has no result. The lemma beside each says that it has one, and that it
is the one of the unguarded access.

## Implementation notes

The guarded accesses see the parts as lists, with no proof about their lengths. A
list becomes a part of a machine again only through `memory?`, `registers?` and
`screen?`, which check the length and, for the screen, every cell.
-/

namespace Chip8.Guarded

/-- The sum of two words, if it is one. -/
def sum? (a b : Word) : Option Word :=
  if a.toNat + b.toNat < 65536 then some (a + b) else none

/-- The difference of two words, if it is one. -/
def difference? (a b : Word) : Option Word :=
  if b.toNat ≤ a.toNat then some (a - b) else none

/-- The product of two words, if it is one. -/
def product? (a b : Word) : Option Word :=
  if a.toNat * b.toNat < 65536 then some (a * b) else none

/-- The entries from the first index on and before the second, which must be in order and within
the list. -/
def slice? {α : Type} (list : List α) (first past : Nat) : Option (List α) :=
  if first ≤ past ∧ past ≤ list.length then some ((list.drop first).take (past - first)) else none

/-- Copy entries over a slice, which must be one and have their number. -/
def copyOver? {α : Type} (list : List α) (first past : Nat) (entries : List α) :
    Option (List α) :=
  if first ≤ past ∧ past ≤ list.length ∧ entries.length = past - first then
    some (list.take first ++ entries ++ list.drop past)
  else none

theorem sum?_eq {a b : Word} (h : a.toNat + b.toNat < 65536) : sum? a b = some (a + b) :=
  if_pos h

theorem difference?_eq {a b : Word} (h : b.toNat ≤ a.toNat) : difference? a b = some (a - b) :=
  if_pos h

theorem slice?_eq {α : Type} {list : List α} {first past : Nat} (horder : first ≤ past)
    (hpast : past ≤ list.length) :
    slice? list first past = some ((list.drop first).take (past - first)) :=
  if_pos ⟨horder, hpast⟩

theorem copyOver?_eq {α : Type} {list entries : List α} {first past : Nat} (horder : first ≤ past)
    (hpast : past ≤ list.length) (hlength : entries.length = past - first) :
    copyOver? list first past entries = some (list.take first ++ entries ++ list.drop past) :=
  if_pos ⟨horder, hpast, hlength⟩

/-! ## Memory -/

/-- A memory of exactly 4096 bytes. -/
def memory? (bytes : List Byte) : Option Memory :=
  if h : bytes.length = 4096 then some ⟨⟨bytes.toArray, h⟩⟩ else none

/-- Write to the slice of memory that a transfer reaches, with the number of bytes written. -/
def write? (m : Memory) (addr : Word) (data : List Byte) : Option (Memory × Nat) := do
  let first := Memory.first addr
  let past := Memory.past addr data.length
  let target ← slice? m.bytes.toList first past
  let part ← slice? data 0 target.length
  let memory ← memory? (← copyOver? m.bytes.toList first past part)
  return (memory, target.length)

/-- Fill the front of a buffer from the slice of memory that a transfer reaches, with the number of
bytes read. -/
def read? (m : Memory) (addr : Word) (buffer : List Byte) : Option (List Byte × Nat) := do
  let bytes ← slice? m.bytes.toList (Memory.first addr) (Memory.past addr buffer.length)
  return (← copyOver? buffer 0 bytes.length bytes, bytes.length)

/-- The word at an address, with a checked slice of memory; the answer is nothing if the slice is
cut short. -/
def word? (m : Memory) (addr : Word) : Option (Option Word) := do
  let bytes ← slice? m.bytes.toList (Memory.first addr) (Memory.past addr 2)
  return match bytes with
    | [high, low] => some (Word.ofBytes high low)
    | _ => none

theorem length_bytes (m : Memory) : m.bytes.toList.length = 4096 := by simp

theorem getElem_bytes (m : Memory) {p : Nat} (hp : p < m.bytes.toList.length) :
    m.bytes.toList[p] = m.byteAt p := by
  rw [length_bytes] at hp
  simp [Memory.byteAt, hp]

/-- The slice of memory that a transfer reaches is within memory and holds the bytes there. -/
theorem slice?_bytes (m : Memory) (addr : Word) (len : Nat) :
    slice? m.bytes.toList (Memory.first addr) (Memory.past addr len) =
      some (m.slice addr len) := by
  have horder := Memory.first_le_past addr len
  have hpast : Memory.past addr len ≤ 4095 := Memory.past_le_limit addr len
  have hroom : Memory.room addr len = Memory.past addr len - Memory.first addr := rfl
  rw [slice?_eq horder (by rw [length_bytes]; omega)]
  congr 1
  apply List.ext_getElem
  · rw [List.length_take, List.length_drop, length_bytes, Memory.length_slice]
    omega
  · intro k _ hk
    rw [Memory.length_slice] at hk
    rw [List.getElem_take, List.getElem_drop, getElem_bytes]
    simp [Memory.slice]

theorem memory?_toList (m : Memory) : memory? m.bytes.toList = some m := by
  rw [memory?, dif_pos (length_bytes m)]
  rfl

/-- Storing bytes that lie within memory replaces the slice they come to lie on. -/
theorem toList_store (m : Memory) {p : Nat} {data : List Byte} (hp : p + data.length ≤ 4096) :
    (m.store p data).bytes.toList =
      m.bytes.toList.take p ++ data ++ m.bytes.toList.drop (p + data.length) := by
  rw [List.append_assoc]
  apply List.ext_getElem
  · simp only [List.length_append, List.length_take, List.length_drop, length_bytes]
    omega
  · intro k hk _
    rw [length_bytes] at hk
    rw [getElem_bytes, Memory.byteAt_store _ _ _ _ hp]
    by_cases hlow : k < p
    · rw [if_neg (by omega), List.getElem_append_left (by simp; omega), List.getElem_take,
        getElem_bytes]
    · rw [List.getElem_append_right (by simp; omega)]
      by_cases hhigh : k < p + data.length
      · rw [if_pos ⟨by omega, hhigh⟩, List.getElem_append_left (by simp; omega)]
        simp [List.getD_eq_getElem?_getD, show min p 4096 = p by omega,
          show k - p < data.length by omega]
      · rw [if_neg (by omega), List.getElem_append_right (by simp; omega), List.getElem_drop,
          getElem_bytes]
        congr 1
        simp
        omega

theorem write?_eq (m : Memory) (addr : Word) (data : List Byte) :
    write? m addr data = some (m.write addr data) := by
  have horder := Memory.first_le_past addr data.length
  have hpast : Memory.past addr data.length ≤ 4095 := Memory.past_le_limit addr data.length
  have hroom : Memory.room addr data.length ≤ data.length := by
    rw [Memory.room_eq]
    omega
  have hcount : Memory.room addr data.length =
      Memory.past addr data.length - Memory.first addr := rfl
  have hlength : (data.take (Memory.room addr data.length)).length =
      Memory.room addr data.length := by
    rw [List.length_take]
    omega
  have hcopy : copyOver? m.bytes.toList (Memory.first addr) (Memory.past addr data.length)
      (data.take (Memory.room addr data.length)) = some (m.write addr data).1.bytes.toList := by
    rw [copyOver?_eq horder (by rw [length_bytes]; omega) (by omega), Memory.write,
      toList_store _ (by omega), hlength]
    congr 3
    omega
  simp only [write?, slice?_bytes, Option.bind_eq_bind, Option.bind_some, Memory.length_slice,
    slice?_eq (Nat.zero_le _) hroom, List.drop_zero, Nat.sub_zero, hcopy, memory?_toList]
  rfl

theorem read?_eq (m : Memory) (addr : Word) (buffer : List Byte) :
    read? m addr buffer = some (m.read addr buffer) := by
  have hroom : Memory.room addr buffer.length ≤ buffer.length := by
    rw [Memory.room_eq]
    omega
  simp only [read?, slice?_bytes, Option.bind_eq_bind, Option.bind_some, Memory.length_slice,
    copyOver?_eq (Nat.zero_le _) hroom (Memory.length_slice ..)]
  simp [Memory.read]

theorem word?_eq (m : Memory) (addr : Word) : word? m addr = some (m.word? addr) := by
  simp only [word?, slice?_bytes, Option.bind_eq_bind, Option.bind_some]
  rfl

end Chip8.Guarded
