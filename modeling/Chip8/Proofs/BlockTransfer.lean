import Chip8.Proofs.Footprint
import Chip8.Proofs.StraightLine
import Chip8.Proofs.Transfers

/-!
# Registers stored to memory and loaded again

The block transfers move the registers from the first to a given one, as many of them as have a byte
below the limit of memory, and the decimal store writes the three digits of a register there. `Stored`,
`Loaded` and `DigitsStored` say what each of them moves and that it changes nothing else. A load
therefore undoes a store if memory and the index register are left alone in between, whatever becomes
of the registers.
-/

namespace Chip8

namespace Machine

/-- How many registers a block transfer up to a given one moves: those whose byte lies below the
limit. -/
def reach (m : Machine) (x : Nibble) : Nat := min (x.val + 1) (0xFFF - m.i.toNat)

/-- The registers have been stored from the index register on, and nothing else has changed. -/
structure Stored (m : Machine) (x : Nibble) (m' : Machine) : Prop where
  written : ∀ r : Nibble, r.val < m.reach x →
    m'.memory.byteAt (m.i.toNat + r.val) = m.register r
  kept : ∀ p, ¬ (m.i.toNat ≤ p ∧ p < m.i.toNat + m.reach x) →
    m'.memory.byteAt p = m.memory.byteAt p
  rest : { m' with memory := m.memory } = m

/-- The registers have been loaded from the index register on, and nothing else has changed. -/
structure Loaded (m : Machine) (x : Nibble) (m' : Machine) : Prop where
  read : ∀ r : Nibble, r.val < m.reach x →
    m'.register r = m.memory.byteAt (m.i.toNat + r.val)
  kept : ∀ r : Nibble, m.reach x ≤ r.val → m'.register r = m.register r
  rest : { m' with v := m.v } = m

/-- The hundreds, the tens and the ones of a register have been stored from the index register on, as
far as the limit, and nothing else has changed. -/
structure DigitsStored (m : Machine) (x : Nibble) (m' : Machine) : Prop where
  digits : ∃ h t o : Byte, (h.toNat ≤ 9 ∧ t.toNat ≤ 9 ∧ o.toNat ≤ 9) ∧
    100 * h.toNat + 10 * t.toNat + o.toNat = (m.register x).toNat ∧
    ∀ k d, [h, t, o][k]? = some d → m.i.toNat + k < 0xFFF →
      m'.memory.byteAt (m.i.toNat + k) = d
  kept : ∀ p, ¬ (m.i.toNat ≤ p ∧ p < m.i.toNat + 3 ∧ p < 0xFFF) →
    m'.memory.byteAt p = m.memory.byteAt p
  rest : { m' with memory := m.memory } = m

/-- The second machine comes from the first one by instructions and other operations, none of which
changes memory or the index register. -/
inductive SourceKept (m : Machine) : Machine → Prop
  | refl : SourceKept m m
  | execute {n : Machine} (h : SourceKept m n) (address : Word) (ins : Instruction)
      (hmemory : (n.execute address ins).machine.memory = n.memory)
      (hindex : (n.execute address ins).machine.i = n.i) :
      SourceKept m (n.execute address ins).machine
  | perform {n : Machine} (h : SourceKept m n) (op : Operation)
      (hmemory : (n.perform op).machine.memory = n.memory)
      (hindex : (n.perform op).machine.i = n.i) : SourceKept m (n.perform op).machine

/-! ## Moving the registers -/

theorem getElem?_registersTo (m : Machine) {x r : Nibble} (h : r.val ≤ x.val) :
    (m.registersTo x)[r.val]? = some (m.register r) := by
  rw [registersTo_eq, List.getElem?_map, List.getElem?_take_of_lt (Nat.lt_succ_of_le h),
    List.getElem?_eq_getElem (by rw [List.length_finRange]; exact r.isLt), List.getElem_finRange]
  rfl

theorem stored_execute (m : Machine) (address : Word) (x : Nibble) :
    m.Stored x (m.execute address (.storeRegisters x)).machine := by
  have hreceived := m.memory.received_write m.i (m.registersTo x)
  have hcount : (m.memory.write m.i (m.registersTo x)).2 = m.reach x := by
    rw [hreceived.count_eq, length_registersTo, reach]
  constructor
  case written =>
    intro r hr
    have hle : r.val ≤ x.val := by
      unfold reach at hr
      omega
    have hmoved := hreceived.moved r.val (by omega)
    rw [getElem?_registersTo m hle] at hmoved
    exact (Option.some.inj hmoved).symm
  case kept =>
    intro p hp
    exact hreceived.kept p (by rwa [hcount])
  case rest => rfl

theorem loaded_execute (m : Machine) (address : Word) (x : Nibble) :
    m.Loaded x (m.execute address (.loadRegisters x)).machine := by
  have hregister := m.register_setRegisters_slice x
  constructor
  case read =>
    intro r hr
    have hmoved : r.val ≤ x.val ∧ m.i.toNat + r.val < 0xFFF := by
      unfold reach at hr
      omega
    exact (hregister r).trans (if_pos hmoved)
  case kept =>
    intro r hr
    have hout : ¬ (r.val ≤ x.val ∧ m.i.toNat + r.val < 0xFFF) := by
      unfold reach at hr
      omega
    exact (hregister r).trans (if_neg hout)
  case rest => simp only [execute, done, setRegisters]

theorem digitsStored_execute (m : Machine) (address : Word) (x : Nibble) :
    m.DigitsStored x (m.execute address (.storeDecimal x)).machine := by
  have hreceived := m.memory.received_write m.i (Decimal.digits (m.register x))
  have hcount := hreceived.count_eq
  have hlength : (Decimal.digits (m.register x)).length = 3 := rfl
  constructor
  case digits =>
    have hvalue := (m.register x).isLt
    refine ⟨BitVec.ofNat 8 ((m.register x).toNat / 100),
      BitVec.ofNat 8 ((m.register x).toNat / 10 % 10), BitVec.ofNat 8 ((m.register x).toNat % 10),
      ?_, ?_, ?_⟩
    · simp only [BitVec.toNat_ofNat]
      omega
    · simp only [BitVec.toNat_ofNat]
      omega
    · intro k d hd hk
      have hd : (Decimal.digits (m.register x))[k]? = some d := by
        rw [Decimal.digits_eq]
        exact hd
      obtain ⟨hlt, -⟩ := List.getElem?_eq_some_iff.mp hd
      have hmoved := hreceived.moved k (by omega)
      exact Option.some.inj (hmoved.symm.trans hd)
  case kept =>
    intro p hp
    exact hreceived.kept p (by omega)
  case rest => rfl

/-! ## Storing and loading again -/

theorem Stored.index {m m' : Machine} {x : Nibble} (h : m.Stored x m') : m'.i = m.i :=
  (congrArg Machine.i h.rest :)

theorem SourceKept.memory_eq {m n : Machine} (h : m.SourceKept n) : n.memory = m.memory := by
  induction h with
  | refl => rfl
  | execute _ _ _ hmemory _ ih => exact hmemory.trans ih
  | perform _ _ hmemory _ ih => exact hmemory.trans ih

theorem SourceKept.index_eq {m n : Machine} (h : m.SourceKept n) : n.i = m.i := by
  induction h with
  | refl => rfl
  | execute _ _ _ _ hindex ih => exact hindex.trans ih
  | perform _ _ _ hindex ih => exact hindex.trans ih

/-- A step is harmless if its instruction stores nothing and does not write to the index register. -/
theorem SourceKept.step {m n : Machine} (h : m.SourceKept n) {now : Instant} {ins : Instruction}
    (hcarries : n.CarriesOut now ins) (hstored : n.stored ins = [])
    (hindex : .index ∉ ins.footprint n.i) : m.SourceKept (n.step now).machine := by
  refine h.perform (.step now) ?_ ?_
  · change (n.step now).machine.memory = n.memory
    rw [hcarries.memory_step, hstored, Memory.write_nil]
  · change (n.step now).machine.i = n.i
    rw [hcarries.machine_step]
    exact same_execute n.advance n.pc ins hindex

/-- What has been stored is loaded again from the same memory. -/
theorem Stored.restored {m stored n restored : Machine} {x : Nibble} (hstored : m.Stored x stored)
    (hmemory : n.memory = stored.memory) (hindex : n.i = stored.i) (hloaded : n.Loaded x restored)
    {r : Nibble} (hr : r.val < m.reach x) : restored.register r = m.register r := by
  have hindex : n.i = m.i := hindex.trans hstored.index
  have hreach : n.reach x = m.reach x := by rw [reach, reach, hindex]
  calc
    restored.register r = n.memory.byteAt (n.i.toNat + r.val) := hloaded.read r (hreach ▸ hr)
    _ = stored.memory.byteAt (m.i.toNat + r.val) := by rw [hmemory, hindex]
    _ = m.register r := hstored.written r hr

theorem ensures_stored (m : Machine) (x : Nibble) : m.Ensures (.storeRegisters x) (m.Stored x) :=
  ensures_of_isStraight rfl (m.stored_execute m.pc x)

theorem ensures_loaded (m : Machine) (x : Nibble) : m.Ensures (.loadRegisters x) (m.Loaded x) :=
  ensures_of_isStraight rfl (m.loaded_execute m.pc x)

/-- Block transfers of any number of registers, wherever the index register points. A store and a load
move the registers whose bytes lie below the limit, and change no other byte, no other register and
not the index register. A load that comes after a store, with instructions and other operations in
between none of which changes memory or the index register, gives all that were moved their values
back, whether the two are carried out by steps or not. A decimal store writes the three digits of its
register as far as the limit, and changes nothing else. -/
theorem block_transfers_restore (m : Machine) (x : Nibble) :
    (m.Ensures (.storeRegisters x) (m.Stored x) ∧ m.Ensures (.loadRegisters x) (m.Loaded x)) ∧
    (∀ address n other, (m.execute address (.storeRegisters x)).machine.SourceKept n →
      ∀ r : Nibble, r.val < m.reach x →
        (n.execute other (.loadRegisters x)).machine.register r = m.register r) ∧
    (m.Finds (.storeRegisters x) → ∀ now n later, (m.step now).machine.SourceKept n →
      n.Finds (.loadRegisters x) → ∀ r : Nibble, r.val < m.reach x →
        (n.step later).machine.register r = m.register r) ∧
    m.Ensures (.storeDecimal x) (m.DigitsStored x) := by
  refine ⟨⟨m.ensures_stored x, m.ensures_loaded x⟩, ?_, ?_, ?_⟩
  · intro address n other hkept r hr
    exact (m.stored_execute address x).restored hkept.memory_eq hkept.index_eq
      (n.loaded_execute other x) hr
  · intro hstore now n later hkept hload r hr
    obtain ⟨stored, -, hstored, -, hstep⟩ := (m.ensures_stored x).step hstore now
    obtain ⟨restored, -, hloaded, -, hlater⟩ := (n.ensures_loaded x).step hload later
    have hmemory := hkept.memory_eq
    have hindex := hkept.index_eq
    rw [hstep] at hmemory hindex
    rw [hlater]
    exact hstored.restored hmemory hindex hloaded hr
  · exact ensures_of_isStraight rfl (m.digitsStored_execute m.pc x)

/-- A machine that is about to store four registers across the limit, to overwrite two of them and to
load them again. -/
def atSpill : Machine :=
  { holding [0xF3, 0x55, 0x60, 0x00, 0x63, 0x00, 0xF3, 0x65] with
    v := Table.const 9
    i := 0xFFD }

theorem block_transfers_restore_atSpill :
    let once := (atSpill.step 0).machine
    let twice := (once.step 0).machine
    let thrice := (twice.step 0).machine
    (atSpill.Finds (.storeRegisters 3) ∧ once.SourceKept thrice ∧
        thrice.Finds (.loadRegisters 3)) ∧
      thrice.register 0 = 0 ∧ (thrice.step 0).machine.register 0 = 9 ∧ atSpill.reach 3 = 2 := by
  intro once twice thrice
  have hwords : (atSpill.pc.toNat < 0xFFE ∧
        Instruction.decode? atSpill.fetched = some (.storeRegisters 3)) ∧
      (once.pc.toNat < 0xFFE ∧ Instruction.decode? once.fetched = some (.loadByte 0 0)) ∧
      (twice.pc.toNat < 0xFFE ∧ Instruction.decode? twice.fetched = some (.loadByte 3 0)) ∧
      thrice.pc.toNat < 0xFFE ∧ Instruction.decode? thrice.fetched = some (.loadRegisters 3) := by
    decide +kernel
  obtain ⟨hstore, hfirst, hsecond, hload⟩ := hwords
  have hstore : atSpill.Finds (.storeRegisters 3) := finds_of_decode? hstore.1 hstore.2
  have hload : thrice.Finds (.loadRegisters 3) := finds_of_decode? hload.1 hload.2
  have hfirst : once.CarriesOut 0 (.loadByte 0 0) := carriesOut_of_isOk hfirst.1 hfirst.2 rfl 0
  have hsecond : twice.CarriesOut 0 (.loadByte 3 0) :=
    carriesOut_of_isOk hsecond.1 hsecond.2 rfl 0
  have hkept : once.SourceKept thrice :=
    (SourceKept.refl.step hfirst rfl (by decide)).step hsecond rfl (by decide)
  have hreach : atSpill.reach 3 = 2 := by decide
  obtain ⟨-, -, hsteps, -⟩ := block_transfers_restore atSpill 3
  refine ⟨⟨hstore, hkept, hload⟩, by decide +kernel, ?_, hreach⟩
  exact hsteps hstore 0 thrice 0 hkept hload 0 (by rw [hreach]; decide)

end Machine

end Chip8
