import Chip8.Word
import Chip8.Font
import Chip8.Fault

/-!
# Memory

Memory has 4096 bytes, of which transfers reach all but the last. A transfer never fails: the part
of it that would run into the limit is left out, and the caller is told how many bytes moved. There
is no wrap from the end of memory to its start.

The view of a memory is `byteAt`; each operation comes with the lemma that says what it does to
this view.
-/

namespace Chip8

/-- The addressable memory of the machine. -/
structure Memory where
  bytes : Vector Byte 4096
  deriving DecidableEq

/-- A stream of bytes to load: it yields `data` and then ends, or fails with a message. -/
structure ByteSource where
  data : List Byte
  failure : Option String

/-- The source that yields the given bytes and ends. -/
def ByteSource.ofList (data : List Byte) : ByteSource := ⟨data, none⟩

namespace Memory

/-- The first address that no transfer may touch. -/
def limit : Nat := 0xFFF

/-- Where programs are loaded and start. -/
def programStart : Word := 0x200

/-- The most bytes that a program can have. -/
def maxProgramSize : Nat := limit - programStart.toNat

/-- The byte at an address, and zero past the end. -/
def byteAt (m : Memory) (p : Nat) : Byte := m.bytes[p]?.getD 0

/-- Replace the byte at an address; past the end nothing changes. -/
def set (m : Memory) (p : Nat) (b : Byte) : Memory := ⟨m.bytes.setIfInBounds p b⟩

theorem byteAt_set (m : Memory) (p q : Nat) (b : Byte) :
    (m.set p b).byteAt q = if q = p ∧ p < 4096 then b else m.byteAt q := by
  unfold byteAt set
  by_cases hp : p < 4096
  · by_cases hq : p = q
    · subst hq; simp [hp]
    · simp [hq, Ne.symm hq]
  · have hsame : m.bytes.setIfInBounds p b = m.bytes := by
      apply Vector.ext
      intro i hi
      rw [Vector.getElem_setIfInBounds]
      split
      · omega
      · rfl
    simp [hp, hsame]

/-- Where a transfer from an address starts. -/
def first (addr : Word) : Nat := min addr.toNat limit

/-- The address past the last one that a transfer of `len` bytes touches. -/
def past (addr : Word) (len : Nat) : Nat := min (first addr + len) limit

/-- How many of `len` bytes a transfer at an address moves. -/
def room (addr : Word) (len : Nat) : Nat := past addr len - first addr

theorem first_le_past (addr : Word) (len : Nat) : first addr ≤ past addr len := by
  simp only [first, past]; omega

theorem past_le_limit (addr : Word) (len : Nat) : past addr len ≤ limit := by
  simp only [past]; omega

theorem room_eq (addr : Word) (len : Nat) : room addr len = min len (limit - addr.toNat) := by
  simp only [room, past, first]; omega

/-- The bytes of `data` at consecutive addresses from `p` on. -/
def store (m : Memory) (p : Nat) : List Byte → Memory
  | [] => m
  | b :: rest => (m.set p b).store (p + 1) rest

theorem byteAt_store (m : Memory) (p q : Nat) (data : List Byte) (hp : p + data.length ≤ 4096) :
    (m.store p data).byteAt q =
      if p ≤ q ∧ q < p + data.length then data.getD (q - p) 0 else m.byteAt q := by
  induction data generalizing m p with
  | nil => rw [store, if_neg (by rw [List.length_nil]; omega)]
  | cons b rest ih =>
    simp only [List.length_cons] at hp
    rw [store, ih (m.set p b) (p + 1) (by omega), byteAt_set]
    simp only [List.length_cons]
    by_cases hq : q = p
    · subst hq
      simp [show ¬ q + 1 ≤ q by omega, show q < 4096 by omega]
    · by_cases hlo : p + 1 ≤ q
      · have : q - p = q - (p + 1) + 1 := by omega
        by_cases hhi : q < p + 1 + rest.length
        · rw [if_pos ⟨hlo, hhi⟩, if_pos ⟨by omega, by omega⟩, this, List.getD_cons_succ]
        · rw [if_neg (by omega), if_neg (by omega), if_neg (by omega)]
      · rw [if_neg (by omega), if_neg (by omega), if_neg (by omega)]

/-- Write as much of `data` as fits at an address, with the number of bytes written. -/
def write (m : Memory) (addr : Word) (data : List Byte) : Memory × Nat :=
  let count := room addr data.length
  (m.store (first addr) (data.take count), count)

@[simp] theorem write_nil (m : Memory) (addr : Word) : m.write addr [] = (m, 0) := by
  simp [write, room_eq, store]

theorem byteAt_write (m : Memory) (addr : Word) (data : List Byte) (q : Nat) :
    (m.write addr data).1.byteAt q =
      if addr.toNat ≤ q ∧ q < addr.toNat + data.length ∧ q < limit then
        data.getD (q - addr.toNat) 0
      else m.byteAt q := by
  have hroom := room_eq addr data.length
  have hlimit : limit = 4095 := rfl
  have hcount : (data.take (room addr data.length)).length = room addr data.length := by
    rw [List.length_take]; omega
  have hfirst : first addr = min addr.toNat limit := rfl
  simp only [write]
  rw [byteAt_store _ _ _ _ (by omega), hcount]
  by_cases h : addr.toNat ≤ q ∧ q < addr.toNat + data.length ∧ q < limit
  · rw [if_pos h, if_pos (by omega), show first addr = addr.toNat by omega]
    simp only [List.getD_eq_getElem?_getD]
    rw [List.getElem?_take_of_lt (by omega)]
  · rw [if_neg h, if_neg (by omega)]

/-- The bytes at an address, as many of `len` as lie below the limit. -/
def slice (m : Memory) (addr : Word) (len : Nat) : List Byte :=
  (List.range' (first addr) (room addr len)).map m.byteAt

@[simp] theorem length_slice (m : Memory) (addr : Word) (len : Nat) :
    (m.slice addr len).length = room addr len := by
  simp [slice]

/-- Fill the front of a buffer from memory, with the number of bytes read. -/
def read (m : Memory) (addr : Word) (buffer : List Byte) : List Byte × Nat :=
  let bytes := m.slice addr buffer.length
  (bytes ++ buffer.drop bytes.length, bytes.length)

/-- The word at an address, high byte first, if both bytes lie below the limit. -/
def word? (m : Memory) (addr : Word) : Option Word :=
  match m.slice addr 2 with
  | [high, low] => some (Word.ofBytes high low)
  | _ => none

/-- A word can be read exactly if its second byte lies below the limit too. -/
theorem word?_eq (m : Memory) (addr : Word) :
    m.word? addr =
      if addr.toNat + 1 < limit then
        some (Word.ofBytes (m.byteAt addr.toNat) (m.byteAt (addr.toNat + 1)))
      else none := by
  have hroom := room_eq addr 2
  have hfirst : first addr = min addr.toNat limit := rfl
  by_cases h : addr.toNat + 1 < limit
  · rw [if_pos h, word?, slice, show room addr 2 = 2 by omega,
      show first addr = addr.toNat by omega]
    rfl
  · rw [if_neg h, word?]
    have hlength : (m.slice addr 2).length < 2 := by rw [length_slice]; omega
    split
    next hbytes => rw [hbytes] at hlength; exact absurd hlength (by simp)
    next => rfl

/-- Change the bytes at an address in place, as many of `len` as lie below the limit; the number of
bytes comes with the memory. -/
def mapSlice (m : Memory) (addr : Word) (len : Nat) (f : List Byte → List Byte) : Memory × Nat :=
  let bytes := m.slice addr len
  (m.store (first addr) ((f bytes).take bytes.length), bytes.length)

/-- Memory with every byte zero. -/
def zeroed : Memory := ⟨Vector.replicate 4096 0⟩

/-- Write a glyph table at the font's address. What fits is written even when the table is too
large. -/
def loadFont (m : Memory) (font : List Byte) : Memory × Except Fault Unit :=
  let (m, written) := m.write Font.start font
  (m, if written < font.length then .error (.fontTooLarge font.length written) else .ok ())

/-- Load a program, with its size. A source that fails leaves memory alone; of a program that is
too large, what fits is written. -/
def loadProgram (m : Memory) (source : ByteSource) : Memory × Except Fault Nat :=
  match source.failure with
  | some message => (m, .error (.io message))
  | none =>
    let (m, written) := m.write programStart source.data
    (m, if written < source.data.length then
      .error (.programTooLarge source.data.length maxProgramSize) else .ok written)

/-- Memory at power-on: the font, and zero elsewhere. -/
def initial : Memory := (zeroed.loadFont Font.bytes).1

@[simp] theorem byteAt_zeroed (q : Nat) : zeroed.byteAt q = 0 := by
  unfold byteAt zeroed
  by_cases hq : q < 4096 <;> simp [hq]

/-- The digit font fits, so that memory at power-on always comes about. -/
theorem loadFont_bytes : zeroed.loadFont Font.bytes = (initial, .ok ()) := by
  have hwritten : (zeroed.write Font.start Font.bytes).2 = Font.bytes.length := by
    simp only [write, room_eq, Font.length_bytes]
    decide
  simp only [initial, loadFont, hwritten, Nat.lt_irrefl, if_false]

theorem byteAt_initial (q : Nat) :
    initial.byteAt q =
      if 0x50 ≤ q ∧ q < 0xA0 then Font.bytes.getD (q - 0x50) 0 else 0 := by
  have hstart : Font.start.toNat = 0x50 := rfl
  have hlength : Font.bytes.length = 0x50 := Font.length_bytes
  have hlimit : limit = 0xFFF := rfl
  simp only [initial, loadFont, byteAt_write, byteAt_zeroed]
  by_cases hq : 0x50 ≤ q ∧ q < 0xA0
  · rw [if_pos hq, if_pos (by omega), hstart]
  · rw [if_neg hq, if_neg (by omega)]

end Memory

end Chip8
