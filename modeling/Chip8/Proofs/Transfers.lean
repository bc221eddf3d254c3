import Chip8.Proofs.Guarded.Access
import Chip8.Proofs.LastWriter

/-!
# Transfers and loads

A transfer moves the bytes that lie below the limit of memory and leaves all others. `Received` and
`Filled` say this of a write and of a read, each by the number of bytes that it reports. The range
that a transfer touches is found with a sum that stops at the largest length there is; `clamp` states
it in this way, and no length makes a difference. To load a program is to write it where programs
start: a program that is too large leaves what fits, and a source that fails leaves nothing.
-/

namespace Chip8

namespace Memory

/-- The largest length that a transfer can be asked for. -/
def maxLength : Nat := 0xFFFFFFFFFFFFFFFF

/-- The sum of two lengths, or the largest length if the sum is larger. -/
def saturatingSum (a b : Nat) : Nat := min (a + b) maxLength

/-- The range of a transfer of `len` bytes: its first address and the one past its last. -/
def clamp (addr : Word) (len : Nat) : Nat × Nat :=
  let first := min addr.toNat limit
  (first, min (saturatingSum first len) limit)

/-- What a write of `data` at an address makes of a memory: `count` is how many of the bytes lie below
the limit, these have come to lie from the address on, and every other byte is as it was. -/
structure Received (m : Memory) (addr : Word) (data : List Byte) (m' : Memory) (count : Nat) :
    Prop where
  count_eq : count = min data.length (0xFFF - addr.toNat)
  moved : ∀ j, j < count → data[j]? = some (m'.byteAt (addr.toNat + j))
  kept : ∀ p, ¬ (addr.toNat ≤ p ∧ p < addr.toNat + count) → m'.byteAt p = m.byteAt p

/-- What a read at an address makes of a buffer: `count` is how many bytes lie below the limit, these
stand at the front of the buffer, and its other entries are as they were. A read gives back no memory,
so that it leaves the one that it reads from. -/
structure Filled (m : Memory) (addr : Word) (buffer buffer' : List Byte) (count : Nat) : Prop where
  count_eq : count = min buffer.length (0xFFF - addr.toNat)
  moved : ∀ j, j < count → buffer'[j]? = some (m.byteAt (addr.toNat + j))
  kept : ∀ j, count ≤ j → buffer'[j]? = buffer[j]?

/-- A sum that stops at the largest length is above the limit whenever the sum itself is. -/
theorem clamp_eq (addr : Word) (len : Nat) : clamp addr len = (first addr, past addr len) := by
  have hlimit : limit = 0xFFF := rfl
  have hmax : maxLength = 0xFFFFFFFFFFFFFFFF := rfl
  simp only [clamp, saturatingSum, first, past, Prod.mk.injEq, true_and]
  omega

theorem received_write (m : Memory) (addr : Word) (data : List Byte) :
    m.Received addr data (m.write addr data).1 (m.write addr data).2 := by
  have hcount : (m.write addr data).2 = min data.length (0xFFF - addr.toNat) :=
    room_eq addr data.length
  have hlimit : limit = 0xFFF := rfl
  constructor
  case count_eq => exact hcount
  case moved =>
    intro j hj
    rw [byteAt_write, if_pos (by omega), Nat.add_sub_cancel_left, List.getD_eq_getElem?_getD,
      List.getElem?_eq_getElem (by omega), Option.getD_some]
  case kept =>
    intro p hp
    rw [byteAt_write, if_neg (by omega)]

theorem filled_read (m : Memory) (addr : Word) (buffer : List Byte) :
    m.Filled addr buffer (m.read addr buffer).1 (m.read addr buffer).2 := by
  have hcount : (m.read addr buffer).2 = min buffer.length (0xFFF - addr.toNat) :=
    (length_slice ..).trans (room_eq ..)
  have hlength : (m.slice addr buffer.length).length = min buffer.length (0xFFF - addr.toNat) :=
    hcount
  constructor
  case count_eq => exact hcount
  case moved =>
    intro j hj
    rw [hcount] at hj
    rw [read, List.getElem?_append_left (by omega), Machine.slice_eq, List.getElem?_map,
      List.getElem?_range hj]
    rfl
  case kept =>
    intro j hj
    rw [hcount] at hj
    rw [read, List.getElem?_append_right (by omega), List.getElem?_drop]
    congr 1
    omega

/-- What has been written is found again. -/
theorem slice_write (m : Memory) (addr : Word) (data : List Byte) :
    (m.write addr data).1.slice addr data.length = data.take (m.write addr data).2 := by
  have hwritten := m.received_write addr data
  have hcount := hwritten.count_eq
  rw [Machine.slice_eq, ← hcount]
  apply List.ext_getElem?
  intro j
  by_cases hj : j < (m.write addr data).2
  · rw [List.getElem?_map, List.getElem?_range hj, List.getElem?_take_of_lt hj,
      hwritten.moved j hj]
    rfl
  · rw [List.getElem?_eq_none (by rw [List.length_map, List.length_range]; omega),
      List.getElem?_eq_none (by rw [List.length_take]; omega)]

theorem read_write (m : Memory) (addr : Word) {data buffer : List Byte}
    (hlength : buffer.length = data.length) :
    (m.write addr data).1.read addr buffer =
      (data.take (m.write addr data).2 ++ buffer.drop (m.write addr data).2,
        (m.write addr data).2) := by
  have hcount := (m.received_write addr data).count_eq
  have htaken : (data.take (m.write addr data).2).length = (m.write addr data).2 := by
    rw [List.length_take]
    omega
  rw [read, hlength, slice_write, htaken]

/-- To change the bytes of a transfer in place is to write the changed bytes back. -/
theorem mapSlice_eq_write (m : Memory) (addr : Word) (len : Nat) {f : List Byte → List Byte}
    (hf : (f (m.slice addr len)).length = (m.slice addr len).length) :
    m.mapSlice addr len f = m.write addr (f (m.slice addr len)) := by
  have hroom : room addr (f (m.slice addr len)).length = (m.slice addr len).length := by
    rw [hf, length_slice, room_eq, room_eq]
    omega
  rw [mapSlice, write, hroom]

/-- A word is read high byte first if both its bytes lie below the limit. -/
theorem toNat_word? (m : Memory) (addr : Word) :
    (m.word? addr).map BitVec.toNat =
      if addr.toNat ≤ 0xFFD then
        some (256 * (m.byteAt addr.toNat).toNat + (m.byteAt (addr.toNat + 1)).toNat)
      else none := by
  have hlimit : limit = 0xFFF := rfl
  rw [word?_eq]
  by_cases haddr : addr.toNat ≤ 0xFFD
  · rw [if_pos haddr, if_pos (by omega), Option.map_some, Word.toNat_ofBytes, Nat.mul_comm]
  · rw [if_neg haddr, if_neg (by omega), Option.map_none]

/-- Transfers at any address. A write and a read never leave memory or their list; they report how many
of the bytes lie below the limit, move exactly these, and leave everything else. A word is read high
byte first if both its bytes lie below the limit, and otherwise there is none. What a write has
written a read of the same length finds. The range of a transfer of any length is in order and ends at
the limit at the latest; its bytes are those from the address on, and bytes changed in place are
written back. -/
theorem transfers_reach_limit (m : Memory) (addr : Word) :
    (∀ data, Guarded.write? m addr data = some (m.write addr data) ∧
      m.Received addr data (m.write addr data).1 (m.write addr data).2) ∧
    (∀ buffer, Guarded.read? m addr buffer = some (m.read addr buffer) ∧
      m.Filled addr buffer (m.read addr buffer).1 (m.read addr buffer).2) ∧
    (Guarded.word? m addr = some (m.word? addr) ∧
      (m.word? addr).map BitVec.toNat =
        if addr.toNat ≤ 0xFFD then
          some (256 * (m.byteAt addr.toNat).toNat + (m.byteAt (addr.toNat + 1)).toNat)
        else none) ∧
    (∀ data buffer, buffer.length = data.length →
      let written := m.write addr data
      written.1.read addr buffer = (data.take written.2 ++ buffer.drop written.2, written.2)) ∧
    ∀ len,
      let (first, past) := clamp addr len
      (first ≤ past ∧ past ≤ 0xFFF) ∧
        Guarded.slice? m.bytes.toList first past = some (m.slice addr len) ∧
        m.slice addr len = (List.range (min len (0xFFF - addr.toNat))).map
          (fun j => m.byteAt (addr.toNat + j)) ∧
        ∀ f : List Byte → List Byte,
          (f (m.slice addr len)).length = (m.slice addr len).length →
            m.mapSlice addr len f = m.write addr (f (m.slice addr len)) := by
  refine ⟨?_, ?_, ⟨Guarded.word?_eq m addr, m.toNat_word? addr⟩, ?_, ?_⟩
  · intro data
    exact ⟨Guarded.write?_eq m addr data, m.received_write addr data⟩
  · intro buffer
    exact ⟨Guarded.read?_eq m addr buffer, m.filled_read addr buffer⟩
  · intro data buffer hlength
    exact m.read_write addr hlength
  · intro len
    simp only [clamp_eq]
    refine ⟨⟨first_le_past addr len, past_le_limit addr len⟩, ?_, ?_, ?_⟩
    · exact Guarded.slice?_bytes m addr len
    · exact Machine.slice_eq m addr len
    · intro f hf
      exact m.mapSlice_eq_write addr len hf

theorem transfers_reach_limit_acrossLimit :
    let data : List Byte := [1, 2, 3, 4, 5]
    let buffer : List Byte := [6, 6, 6, 6, 6]
    let stored := (initial.write 0xFFC data).1
    buffer.length = data.length ∧
      stored.read 0xFFC buffer = ([1, 2, 3, 6, 6], 3) ∧
      (stored.slice 0xFFD maxLength).reverse.length = (stored.slice 0xFFD maxLength).length ∧
      stored.mapSlice 0xFFD maxLength List.reverse =
        stored.write 0xFFD (stored.slice 0xFFD maxLength).reverse := by
  intro data buffer stored
  obtain ⟨-, -, -, hround, -⟩ := transfers_reach_limit initial 0xFFC
  obtain ⟨-, -, -, -, hrange⟩ := transfers_reach_limit stored 0xFFD
  have hreverse : (stored.slice 0xFFD maxLength).reverse.length =
      (stored.slice 0xFFD maxLength).length := List.length_reverse
  have hcount : (initial.write 0xFFC data).2 = 3 :=
    (initial.received_write 0xFFC data).count_eq
  have hread := hround data buffer rfl
  simp only [hcount] at hread
  exact ⟨rfl, hread, hreverse, (hrange maxLength).2.2.2 List.reverse hreverse⟩

/-! ## Loading a program -/

/-- A program that its source yields is written where programs start, as far as there is room. -/
theorem loadProgram_ofList (m : Memory) (program : List Byte) :
    m.loadProgram (.ofList program) =
      ((m.write programStart program).1,
        if program.length ≤ 3583 then .ok program.length
        else .error (.programTooLarge program.length 3583)) := by
  have hcount := (m.received_write programStart program).count_eq
  have hstart : programStart.toNat = 0x200 := rfl
  have hmax : maxProgramSize = 3583 := rfl
  simp only [loadProgram, ByteSource.ofList, hmax]
  by_cases hfits : program.length ≤ 3583
  · have hall : (m.write programStart program).2 = program.length := by omega
    rw [if_pos hfits, if_neg (by omega), hall]
  · rw [if_neg hfits, if_pos (by omega)]

end Memory

namespace Machine

theorem load_ofList (m : Machine) (program : List Byte) :
    m.load (.ofList program) =
      let memory := (m.memory.write Memory.programStart program).1
      if program.length ≤ 3583 then
        ⟨{ m with memory := memory, pc := Memory.programStart }, .ok program.length,
          [.programLoaded program.length]⟩
      else ⟨{ m with memory := memory }, .error (.programTooLarge program.length 3583), []⟩ := by
  rw [load, Memory.loadProgram_ofList]
  by_cases hfits : program.length ≤ 3583
  · simp only [if_pos hfits]
  · simp only [if_neg hfits]

/-- The memory after a load, whether all of the program fits or not. -/
theorem received_load (m : Machine) (program : List Byte) :
    m.memory.Received Memory.programStart program (m.load (.ofList program)).machine.memory
      (min program.length 3583) := by
  have hreceived := m.memory.received_write Memory.programStart program
  have hcount : (m.memory.write Memory.programStart program).2 = min program.length 3583 :=
    hreceived.count_eq
  simp only [memory_load, Memory.loadProgram_ofList, ← hcount]
  exact hreceived

/-- Two neighbouring bytes of a program make the word that is found where they have been loaded to. -/
theorem instructionAt_load (m : Machine) {program : List Byte} (hfits : program.length ≤ 3583)
    {j : Nat} (hj : j + 1 < program.length) :
    ∃ w, (m.load (.ofList program)).machine.instructionAt (BitVec.ofNat 16 (0x200 + j)) = .ok w ∧
      w.toNat = 256 * program[j].toNat + program[j + 1].toNat := by
  have hreceived := m.received_load program
  generalize (m.load (.ofList program)).machine = loaded at hreceived ⊢
  have haddr : (BitVec.ofNat 16 (0x200 + j)).toNat = 0x200 + j := by
    rw [BitVec.toNat_ofNat]
    omega
  have hhigh : program[j] = loaded.memory.byteAt (0x200 + j) := by
    apply Option.some.inj
    rw [← List.getElem?_eq_getElem]
    exact hreceived.moved j (by omega)
  have hlow : program[j + 1] = loaded.memory.byteAt (0x200 + j + 1) := by
    apply Option.some.inj
    rw [← List.getElem?_eq_getElem]
    exact hreceived.moved (j + 1) (by omega)
  rw [instructionAt_eq, haddr, if_pos (by omega), hhigh, hlow]
  refine ⟨_, rfl, ?_⟩
  rw [Word.toNat_ofBytes, Nat.mul_comm]

/-- Loading a program, whatever the state and however long the program. It goes well if the program
has at most 3583 bytes, and otherwise tells of its size and of this bound. Either way memory has
received what fits, and nothing else has changed but the program counter, which points at the program
if all of it fits. A source that fails, after whatever bytes, leaves the whole machine as it was. After
a load that goes well the words at the addresses of the program are the pairs of its bytes. -/
theorem load_receives_what_fits (m : Machine) (program : List Byte) :
    let loaded := m.load (.ofList program)
    (loaded.answer =
        if program.length ≤ 3583 then .ok program.length
        else .error (.programTooLarge program.length 3583)) ∧
      m.memory.Received 0x200 program loaded.machine.memory (min program.length 3583) ∧
      (loaded.machine.pc = if program.length ≤ 3583 then 0x200 else m.pc) ∧
      { loaded.machine with memory := m.memory, pc := m.pc } = m ∧
      (∀ message, (m.load ⟨program, some message⟩).machine = m ∧
        (m.load ⟨program, some message⟩).answer = .error (.io message)) ∧
      (loaded.answer = .ok program.length → ∀ j, (hj : j + 1 < program.length) →
        ∃ w, loaded.machine.instructionAt (BitVec.ofNat 16 (0x200 + j)) = .ok w ∧
          w.toNat = 256 * program[j].toNat + program[j + 1].toNat) := by
  intro loaded
  have hreceived : m.memory.Received 0x200 program loaded.machine.memory
      (min program.length 3583) := m.received_load program
  have hloaded : loaded = _ := m.load_ofList program
  by_cases hfits : program.length ≤ 3583
  · rw [if_pos hfits] at hloaded
    refine ⟨?_, hreceived, ?_, ?_, fun message => ⟨rfl, rfl⟩, fun _ j hj => ?_⟩
    · rw [hloaded, if_pos hfits]
    · rw [hloaded, if_pos hfits]
      rfl
    · rw [hloaded]
    · exact m.instructionAt_load hfits hj
  · rw [if_neg hfits] at hloaded
    refine ⟨?_, hreceived, ?_, ?_, fun message => ⟨rfl, rfl⟩, fun hanswer => ?_⟩
    · rw [hloaded, if_neg hfits]
    · rw [hloaded, if_neg hfits]
    · rw [hloaded]
    · rw [hloaded] at hanswer
      cases hanswer

theorem load_receives_what_fits_threeBytes :
    let loaded := (holding [0x00, 0xEE]).load (.ofList [0x6A, 0x02, 0xA2])
    loaded.answer = .ok 3 ∧ 1 + 1 < [0x6A, 0x02, 0xA2].length ∧
      ∃ w, loaded.machine.instructionAt 0x201 = .ok w ∧ w.toNat = 0x02A2 := by
  intro loaded
  obtain ⟨hanswer, -, -, -, -, hwords⟩ :=
    load_receives_what_fits (holding [0x00, 0xEE]) [0x6A, 0x02, 0xA2]
  exact ⟨hanswer, by decide, hwords hanswer 1 (by decide)⟩

end Machine

end Chip8
