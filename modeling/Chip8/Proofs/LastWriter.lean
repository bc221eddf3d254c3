import Mathlib.Data.List.Infix
import Chip8.Proofs.Faults

/-!
# The last writer wins

`Writes` says which operations put bytes to memory, which bytes, and where from: a reset,
a load from a source that does not fail, and the two instructions that store. What a
history leaves at an address is what was put there last, beginning with the power-on
contents. What is fetched, drawn and loaded from memory are these bytes.
-/

namespace Chip8

/-- Bytes for consecutive addresses. -/
structure Patch where
  first : Nat
  bytes : List Byte

/-- The byte that a patch has for an address. It has none for the address that no transfer may touch
or for any past it, and it does not go on at the low end of memory. -/
def Patch.byte? (patch : Patch) (p : Nat) : Option Byte :=
  if patch.first ≤ p ∧ p < 0xFFF then patch.bytes[p - patch.first]? else none

/-- The contents of memory at power-on: the eighty bytes of the font, and zero around them. -/
def Patch.powerOn : Patch :=
  ⟨0, List.replicate 0x50 0 ++ Font.bytes ++ List.replicate 0xF60 0⟩

namespace Machine

/-- The hundreds, the tens and the ones of a byte. -/
def decimal (b : Byte) : List Byte :=
  [b.toNat / 100, b.toNat / 10 % 10, b.toNat % 10].map (BitVec.ofNat 8)

/-- What an operation on a machine writes to memory. Operations that are not listed write
nothing. -/
inductive Writes (m : Machine) : Operation → Patch → Prop
  /-- A reset writes all of memory. -/
  | reset (now : Instant) : Writes m (.reset now) .powerOn
  /-- A load writes as much of a program as there is room for, whether this is all of it or not. -/
  | load {source : ByteSource} (hsource : source.failure = none) :
      Writes m (.load source) ⟨0x200, source.data.take 3583⟩
  /-- A store writes the registers from the first to the given one. -/
  | storeRegisters {now : Instant} {x : Nibble} (h : m.CarriesOut now (.storeRegisters x)) :
      Writes m (.step now) ⟨m.i.toNat, ((List.finRange 16).take (x.val + 1)).map m.register⟩
  /-- A decimal store writes the digits of the register. -/
  | storeDecimal {now : Instant} {x : Nibble} (h : m.CarriesOut now (.storeDecimal x)) :
      Writes m (.step now) ⟨m.i.toNat, decimal (m.register x)⟩

/-- An operation puts a byte to an address. -/
def Puts (m : Machine) (op : Operation) (p : Nat) (b : Byte) : Prop :=
  ∃ patch, m.Writes op patch ∧ patch.byte? p = some b

/-- No operation of a history puts a byte to an address. -/
def NeverPuts (m : Machine) (ops : List Operation) (p : Nat) : Prop :=
  ∀ done op, done ++ [op] <+: ops → ∀ b, ¬ (m.afterAll done).Puts op p b

/-- A byte is the last one that the history of a new machine has put to an address; the machine
itself comes about with the power-on contents. -/
def PutsLast (m : Machine) (ops : List Operation) (p : Nat) (b : Byte) : Prop :=
  (∃ done op rest, ops = done ++ op :: rest ∧ (m.afterAll done).Puts op p b ∧
    (m.afterAll (done ++ [op])).NeverPuts rest p) ∨
  m.NeverPuts ops p ∧ Patch.powerOn.byte? p = some b

/-! ## One operation -/

theorem getElem?_powerOn (p : Nat) :
    Patch.powerOn.bytes[p]? =
      if p < 4096 then some (if 0x50 ≤ p ∧ p < 0xA0 then Font.bytes.getD (p - 0x50) 0 else 0)
      else none := by
  have hfont : Font.bytes.length = 0x50 := Font.length_bytes
  simp only [Patch.powerOn, List.append_assoc, List.getElem?_append, List.length_replicate,
    List.getElem?_replicate, hfont]
  by_cases hlow : p < 0x50
  · rw [if_pos hlow, if_pos hlow, if_pos (by omega), if_neg (by omega)]
  · rw [if_neg hlow]
    by_cases hhigh : p < 0xA0
    · rw [if_pos (by omega), if_pos (by omega), if_pos ⟨by omega, hhigh⟩,
        List.getD_eq_getElem?_getD, List.getElem?_eq_getElem (by omega)]
      rfl
    · rw [if_neg (by omega)]
      by_cases hend : p < 4096
      · rw [if_pos (by omega), if_pos hend, if_neg (by omega)]
      · rw [if_neg (by omega), if_neg hend]

theorem getElem?_toList_bytes (m : Memory) (p : Nat) :
    m.bytes.toList[p]? = if p < 4096 then some (m.byteAt p) else none := by
  by_cases hp : p < 4096 <;> simp [Memory.byteAt, hp]

/-- A new machine has the power-on contents in its memory. -/
theorem toList_initial : Memory.initial.bytes.toList = Patch.powerOn.bytes := by
  apply List.ext_getElem?
  intro p
  rw [getElem?_powerOn, getElem?_toList_bytes, Memory.byteAt_initial]

theorem byte?_powerOn {p : Nat} (hp : p < 0xFFF) :
    Patch.powerOn.byte? p = some (Memory.initial.byteAt p) := by
  have hfirst : Patch.powerOn.first = 0 := rfl
  rw [Patch.byte?, hfirst, if_pos ⟨Nat.zero_le p, hp⟩, Nat.sub_zero, getElem?_powerOn,
    if_pos (by omega), Memory.byteAt_initial]

/-- Bytes that are written at an address are found there as far as the limit, and all other bytes
stay. -/
theorem byteAt_write_eq (m : Memory) (addr : Word) (bytes : List Byte) (p : Nat) :
    (m.write addr bytes).1.byteAt p =
      (Patch.byte? ⟨addr.toNat, bytes⟩ p).getD (m.byteAt p) := by
  simp only [Memory.byteAt_write, Patch.byte?, show Memory.limit = 0xFFF from rfl]
  by_cases hp : addr.toNat ≤ p ∧ p < 0xFFF
  · rw [if_pos hp]
    by_cases hend : p - addr.toNat < bytes.length
    · rw [if_pos ⟨hp.1, by omega, hp.2⟩, List.getD_eq_getElem?_getD,
        List.getElem?_eq_getElem hend]
      rfl
    · rw [if_neg (by omega), List.getElem?_eq_none (by omega)]
      rfl
  · rw [if_neg hp, if_neg (fun h => hp ⟨h.1, h.2.2⟩)]
    rfl

theorem registersTo_eq (m : Machine) (x : Nibble) :
    m.registersTo x = ((List.finRange 16).take (x.val + 1)).map m.register := by
  have hall : m.v.toList = (List.finRange 16).map m.register := by
    apply List.ext_getElem
    · simp
    · intro k hk _
      simp [register, Table.entry]
  rw [registersTo, hall, List.map_take]

theorem memory_load (m : Machine) (source : ByteSource) :
    (m.load source).machine.memory = (m.memory.loadProgram source).1 := by
  obtain ⟨pc, -, hload⟩ := m.machine_perform_load source
  exact congrArg Machine.memory hload

/-- A step that carries out an instruction writes what this instruction stores. -/
theorem CarriesOut.memory_step {m : Machine} {now : Instant} {ins : Instruction}
    (h : m.CarriesOut now ins) :
    (m.step now).machine.memory = (m.memory.write m.i (m.stored ins)).1 := by
  rw [h.machine_step]
  exact memory_execute m.advance m.pc ins

/-- After an operation that writes, what it has written is found in memory, and all other bytes are
as before. -/
theorem Writes.byteAt_perform {m : Machine} {op : Operation} {patch : Patch}
    (h : m.Writes op patch) {p : Nat} (hp : p < 0xFFF) :
    (m.perform op).machine.memory.byteAt p = (patch.byte? p).getD (m.memory.byteAt p) := by
  cases h with
  | reset now =>
      rw [machine_perform_reset, byte?_powerOn hp]
      rfl
  | @load source hsource =>
      have hcut : Patch.byte? ⟨0x200, source.data.take 3583⟩ p =
          Patch.byte? ⟨0x200, source.data⟩ p := by
        simp only [Patch.byte?]
        split
        next hpatch => exact List.getElem?_take_of_lt (by omega)
        next => rfl
      change (m.load source).machine.memory.byteAt p = _
      rw [memory_load, hcut]
      simp only [Memory.loadProgram, hsource]
      exact byteAt_write_eq m.memory Memory.programStart source.data p
  | @storeRegisters now x hcarries =>
      change (m.step now).machine.memory.byteAt p = _
      rw [hcarries.memory_step, byteAt_write_eq, stored, registersTo_eq]
  | @storeDecimal now x hcarries =>
      change (m.step now).machine.memory.byteAt p = _
      rw [hcarries.memory_step, byteAt_write_eq, stored, Decimal.digits_eq]
      rfl

/-- An operation that does not write leaves memory alone. -/
theorem memory_perform_of_not_writes {m : Machine} {op : Operation}
    (h : ∀ patch, ¬ m.Writes op patch) : (m.perform op).machine.memory = m.memory := by
  cases op with
  | load source =>
      change (m.load source).machine.memory = _
      cases hsource : source.failure with
      | none => exact absurd (.load hsource) (h _)
      | some message =>
          rw [memory_load]
          simp only [Memory.loadProgram, hsource]
  | reset now => exact absurd (.reset now) (h _)
  | step now =>
      change (m.step now).machine.memory = _
      cases hanswer : (m.step now).answer with
      | error fault =>
          rw [(stops_of_step_error hanswer).2]
          split <;> rfl
      | ok status =>
          obtain ⟨ins, hcarries⟩ := carriesOut_of_ok hanswer
          have hnothing : m.stored ins = [] := by
            cases ins with
            | storeDecimal x => exact absurd (.storeDecimal hcarries) (h _)
            | storeRegisters x => exact absurd (.storeRegisters hcarries) (h _)
            | _ => rfl
          rw [hcarries.memory_step, hnothing, Memory.write_nil]
  | key key down => rfl
  | releaseKeys => rfl

theorem Puts.byteAt_perform {m : Machine} {op : Operation} {p : Nat} {b : Byte}
    (h : m.Puts op p b) : (m.perform op).machine.memory.byteAt p = b := by
  obtain ⟨patch, hwrites, hbyte⟩ := h
  have hp : p < 0xFFF := by
    unfold Patch.byte? at hbyte
    split at hbyte
    next hpatch => exact hpatch.2
    next => cases hbyte
  rw [hwrites.byteAt_perform hp, hbyte, Option.getD_some]

theorem byteAt_perform_of_not_puts {m : Machine} {op : Operation} {p : Nat} (hp : p < 0xFFF)
    (h : ∀ b, ¬ m.Puts op p b) :
    (m.perform op).machine.memory.byteAt p = m.memory.byteAt p := by
  by_cases hwrites : ∃ patch, m.Writes op patch
  · obtain ⟨patch, hwrites⟩ := hwrites
    have hbyte : patch.byte? p = none :=
      Option.eq_none_iff_forall_ne_some.mpr fun b hb => h b ⟨patch, hwrites, hb⟩
    rw [hwrites.byteAt_perform hp, hbyte, Option.getD_none]
  · rw [memory_perform_of_not_writes (not_exists.mp hwrites)]

/-! ## What reads memory -/

theorem instructionAt_eq (m : Machine) (addr : Word) :
    m.instructionAt addr =
      if addr.toNat + 1 < 0xFFF then
        .ok (Word.ofBytes (m.memory.byteAt addr.toNat) (m.memory.byteAt (addr.toNat + 1)))
      else .error (.programRunaway addr) := by
  rw [instructionAt, Memory.word?_eq, show Memory.limit = 0xFFF from rfl]
  by_cases haddr : addr.toNat + 1 < 0xFFF
  · rw [if_pos haddr, if_pos haddr]
  · rw [if_neg haddr, if_neg haddr]

/-- The bytes from an address on, as many of `len` as lie below the limit. -/
theorem slice_eq (m : Memory) (addr : Word) (len : Nat) :
    m.slice addr len =
      (List.range (min len (0xFFF - addr.toNat))).map fun k => m.byteAt (addr.toNat + k) := by
  rw [Memory.slice, Memory.room_eq, List.range'_eq_map_range, List.map_map,
    show Memory.limit = 0xFFF from rfl]
  apply List.map_congr_left
  intro k hk
  have hroom : k < 0xFFF - addr.toNat := by
    rw [List.mem_range] at hk
    omega
  have hfirst : Memory.first addr = addr.toNat := by
    unfold Memory.first
    rw [show Memory.limit = 0xFFF from rfl]
    omega
  rw [Function.comp_apply, hfirst]

/-- A draw reads its sprite from memory. -/
theorem CarriesOut.draw {m : Machine} {now : Instant} {x y rows : Nibble}
    (h : m.CarriesOut now (.draw x y rows)) :
    let sprite := (List.range (min rows.val (0xFFF - m.i.toNat))).map
      fun k => m.memory.byteAt (m.i.toNat + k)
    let drawn := m.screen.blit (m.register x) (m.register y) sprite
    (m.step now).machine.screen = drawn.1 ∧
      (m.step now).machine.register flag = if drawn.2 then 1 else 0 := by
  intro sprite drawn
  have hdrawn : drawn =
      m.screen.blit (m.register x) (m.register y) (m.memory.slice m.i rows.val) := by
    rw [slice_eq]
  have hexecute : (m.advance.execute m.pc (.draw x y rows)).machine =
      { m.advance with screen := drawn.1 }.setRegister flag (if drawn.2 then 1 else 0) := by
    rw [hdrawn]
    rfl
  rw [h.machine_step, hexecute]
  constructor
  · rfl
  · exact register_setRegister_self ..

/-- Of the registers up to a given one, a load fills those that have a byte below the limit. -/
theorem register_setRegisters_slice (m : Machine) (x k : Nibble) :
    (m.setRegisters (m.memory.slice m.i (x.val + 1))).register k =
      if k ≤ x ∧ m.i.toNat + k.val < 0xFFF then m.memory.byteAt (m.i.toNat + k.val)
      else m.register k := by
  rw [register_setRegisters, slice_eq, List.getD_eq_getElem?_getD, List.getElem?_map]
  by_cases hk : k ≤ x ∧ m.i.toNat + k.val < 0xFFF
  · have hle : k.val ≤ x.val := hk.1
    rw [if_pos hk, List.getElem?_range (by omega)]
    rfl
  · have hout : ¬ (k.val ≤ x.val ∧ m.i.toNat + k.val < 0xFFF) := hk
    rw [if_neg hk, List.getElem?_eq_none (by rw [List.length_range]; omega)]
    rfl

/-- A load of registers reads them from memory. -/
theorem CarriesOut.loadRegisters {m : Machine} {now : Instant} {x : Nibble}
    (h : m.CarriesOut now (.loadRegisters x)) (k : Nibble) :
    (m.step now).machine.register k =
      if k ≤ x ∧ m.i.toNat + k.val < 0xFFF then m.memory.byteAt (m.i.toNat + k.val)
      else m.register k := by
  rw [h.machine_step]
  exact register_setRegisters_slice m.advance x k

/-! ## A history -/

theorem NeverPuts.head {m : Machine} {op : Operation} {ops : List Operation} {p : Nat}
    (h : m.NeverPuts (op :: ops) p) (b : Byte) : ¬ m.Puts op p b :=
  h [] op ⟨ops, rfl⟩ b

theorem NeverPuts.tail {m : Machine} {op : Operation} {ops : List Operation} {p : Nat}
    (h : m.NeverPuts (op :: ops) p) : (m.perform op).machine.NeverPuts ops p :=
  fun done next hdone => h (op :: done) next (List.cons_prefix_cons.mpr ⟨rfl, hdone⟩)

theorem NeverPuts.cons {m : Machine} {op : Operation} {ops : List Operation} {p : Nat}
    (hop : ∀ b, ¬ m.Puts op p b) (hops : (m.perform op).machine.NeverPuts ops p) :
    m.NeverPuts (op :: ops) p := by
  intro done next hdone
  cases done with
  | nil =>
      obtain rfl := (List.cons_prefix_cons.mp hdone).1
      exact hop
  | cons first done =>
      obtain ⟨rfl, hrest⟩ := List.cons_prefix_cons.mp hdone
      exact hops done next hrest

/-- A byte stays over a history that never puts another one to its address. -/
theorem byteAt_afterAll_of_neverPuts {m : Machine} {ops : List Operation} {p : Nat}
    (hp : p < 0xFFF) (h : m.NeverPuts ops p) :
    (m.afterAll ops).memory.byteAt p = m.memory.byteAt p := by
  induction ops generalizing m with
  | nil => rfl
  | cons op ops ih =>
      rw [afterAll_cons, ih h.tail, byteAt_perform_of_not_puts hp h.head]

/-- A history puts a byte to an address for the last time, or never does. -/
theorem putsLast_or_neverPuts (m : Machine) (ops : List Operation) (p : Nat) :
    (∃ b done op rest, ops = done ++ op :: rest ∧ (m.afterAll done).Puts op p b ∧
      (m.afterAll (done ++ [op])).NeverPuts rest p) ∨ m.NeverPuts ops p := by
  induction ops generalizing m with
  | nil =>
      right
      intro done op hdone
      exact absurd (List.prefix_nil.mp hdone) (by simp)
  | cons first ops ih =>
      rcases ih (m.perform first).machine with ⟨b, done, op, rest, rfl, hputs, hrest⟩ | hnever
      · exact .inl ⟨b, first :: done, op, rest, rfl, hputs, hrest⟩
      · by_cases hfirst : ∃ b, m.Puts first p b
        · obtain ⟨b, hputs⟩ := hfirst
          exact .inl ⟨b, [], first, ops, rfl, hputs, hnever⟩
        · exact .inr (.cons (not_exists.mp hfirst) hnever)

/-- What was put to an address last is found there. -/
theorem byteAt_afterAll_of_putsLast {keys : Keypad} {random : RandomSource} {now : Instant}
    {ops : List Operation} {p : Nat} {b : Byte} (hp : p < 0xFFF)
    (h : (start keys random now).PutsLast ops p b) :
    ((start keys random now).afterAll ops).memory.byteAt p = b := by
  rcases h with ⟨done, op, rest, rfl, hputs, hrest⟩ | ⟨hnever, hbyte⟩
  · have hafter := byteAt_afterAll_of_neverPuts hp hrest
    rw [afterAll_append, afterAll_cons, afterAll_nil] at hafter
    rw [afterAll_append, afterAll_cons, hafter, hputs.byteAt_perform]
  · rw [byteAt_afterAll_of_neverPuts hp hnever]
    rw [byte?_powerOn hp] at hbyte
    exact Option.some.inj hbyte

/-- After every history of a new machine each byte below the limit of transfers is the last one that
was put to its address. A fetch takes the word to run from these bytes, a draw takes its sprite from
them, as far as the limit, and a load of registers takes its values from them. -/
theorem byteAt_iff_putsLast (keys : Keypad) (random : RandomSource) (now : Instant)
    (ops : List Operation) :
    let m := (start keys random now).afterAll ops
    let byteAt := m.memory.byteAt
    (∀ p b, p < 0xFFF → (byteAt p = b ↔ (start keys random now).PutsLast ops p b)) ∧
    (∀ addr, m.instructionAt addr =
      if addr.toNat + 1 < 0xFFF then
        .ok (Word.ofBytes (byteAt addr.toNat) (byteAt (addr.toNat + 1)))
      else .error (.programRunaway addr)) ∧
    (∀ time ins, m.CarriesOut time ins →
      Instruction.decode? (Word.ofBytes (byteAt m.pc.toNat) (byteAt (m.pc.toNat + 1))) =
        some ins) ∧
    (∀ time x y rows, m.CarriesOut time (.draw x y rows) →
      let sprite := (List.range (min rows.val (0xFFF - m.i.toNat))).map
        fun k => byteAt (m.i.toNat + k)
      let drawn := m.screen.blit (m.register x) (m.register y) sprite
      (m.step time).machine.screen = drawn.1 ∧
        (m.step time).machine.register flag = if drawn.2 then 1 else 0) ∧
    ∀ time x, m.CarriesOut time (.loadRegisters x) → ∀ k,
      (m.step time).machine.register k =
        if k ≤ x ∧ m.i.toNat + k.val < 0xFFF then byteAt (m.i.toNat + k.val)
        else m.register k := by
  intro m byteAt
  refine ⟨?_, m.instructionAt_eq, fun _ _ h => h.decode?_fetched.2, fun _ _ _ _ h => h.draw,
    fun _ _ h => h.loadRegisters⟩
  intro p b hp
  constructor
  · rintro rfl
    rcases putsLast_or_neverPuts (start keys random now) ops p with
      ⟨b, done, op, rest, hops, hputs, hrest⟩ | hnever
    · have hlast : (start keys random now).PutsLast ops p b :=
        .inl ⟨done, op, rest, hops, hputs, hrest⟩
      rw [show byteAt p = b from byteAt_afterAll_of_putsLast hp hlast]
      exact hlast
    · right
      refine ⟨hnever, ?_⟩
      rw [byte?_powerOn hp]
      exact congrArg some (byteAt_afterAll_of_neverPuts hp hnever).symm
  · exact byteAt_afterAll_of_putsLast hp

/-- Steps of a program that stores four registers over a glyph of the font, loads five from there,
and draws what is there. -/
def overGlyph (steps : Nat) : List Operation :=
  .load (.ofList [0xF0, 0x29, 0xF3, 0x55, 0xF4, 0x65, 0xD0, 0x05]) ::
    List.replicate steps (.step 0)

/-- A machine at power-on, with its memory written out. -/
def made : Machine :=
  { ofSeed 0 0 with
    memory := ⟨⟨⟨Patch.powerOn.bytes⟩, by
      simp only [Patch.powerOn, List.size_toArray, List.length_append, List.length_replicate,
        Font.length_bytes]
      decide⟩⟩ }

theorem start_eq_made : start Keypad.released (RandomSource.ofSeed 0) 0 = made := by
  have hmemory : Memory.initial = made.memory := by
    cases hinitial : Memory.initial with
    | mk bytes =>
    have hlist := toList_initial
    rw [hinitial] at hlist
    exact congrArg Memory.mk (Vector.toList_inj.mp hlist)
  unfold start made ofSeed
  rw [hmemory]
  rfl

theorem byteAt_iff_putsLast_overGlyph :
    made.PutsLast (overGlyph 2) 0x50 0x00 ∧ made.PutsLast (overGlyph 2) 0x54 0xF0 ∧
    (made.afterAll (overGlyph 2)).CarriesOut 0 (.loadRegisters 4) ∧
    ((made.afterAll (overGlyph 2)).step 0).machine.register 4 = 0xF0 ∧
    (made.afterAll (overGlyph 3)).CarriesOut 0 (.draw 0 0 5) ∧
    ((made.afterAll (overGlyph 3)).step 0).machine.screen.pixel (0, 4) = true := by
  obtain ⟨hlast, -, -, -, hload⟩ :=
    byteAt_iff_putsLast Keypad.released (RandomSource.ofSeed 0) 0 (overGlyph 2)
  obtain ⟨-, -, -, hdraw, -⟩ :=
    byteAt_iff_putsLast Keypad.released (RandomSource.ofSeed 0) 0 (overGlyph 3)
  rw [start_eq_made] at hlast hload hdraw
  have hstored : let m := made.afterAll (overGlyph 2)
      m.pc.toNat < 0xFFE ∧ Instruction.decode? m.fetched = some (.loadRegisters 4) ∧
        m.i = 0x50 ∧ m.memory.byteAt 0x50 = 0x00 ∧ m.memory.byteAt 0x54 = 0xF0 := by
    decide +kernel
  have hloaded : let m := made.afterAll (overGlyph 3)
      m.pc.toNat < 0xFFE ∧ Instruction.decode? m.fetched = some (.draw 0 0 5) := by
    decide +kernel
  obtain ⟨hpc, hword, hindex, hfirst, hfifth⟩ := hstored
  have hloads := carriesOut_of_isOk hpc hword rfl 0
  have hdraws := carriesOut_of_isOk hloaded.1 hloaded.2 rfl 0
  refine ⟨?_, ?_, hloads, ?_, hdraws, ?_⟩
  · exact (hlast 0x50 0x00 (by decide)).mp hfirst
  · exact (hlast 0x54 0xF0 (by decide)).mp hfifth
  · rw [hload 0 4 hloads 4, hindex]
    exact hfifth
  · rw [(hdraw 0 0 0 5 hdraws).1]
    decide +kernel

end Machine

end Chip8
