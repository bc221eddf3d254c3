import Mathlib.Data.List.GetD
import Chip8.Proofs.Stepping

/-!
# What an instruction may write to

`Instruction.footprint` lists the places of a machine that an instruction may write
to. Each way in which instructions update a machine comes with a lemma that says where
it changes nothing; from these, an instruction changes nothing outside its footprint.
A step adds to this the decay of the timers alone, and asks for the screen to be shown
again exactly when the screen is in the footprint of its instruction.
-/

namespace Chip8

/-- A place in a machine that can be written to. The program counter, which every
step moves, is not counted among them. -/
inductive Place where
  /-- The byte of memory at an address. -/
  | byte (p : Nat)
  | register (x : Nibble)
  | index
  /-- The slots of the call stack and how many are live. -/
  | stack
  | delay
  | sound
  /-- The time from which the next decay of the timers is counted. -/
  | lastDecay
  | screen
  | keys
  | random
  deriving DecidableEq

namespace Place

/-- The two machines hold the same at a place. -/
def Same (m n : Machine) : Place → Prop
  | byte p => n.memory.byteAt p = m.memory.byteAt p
  | register x => n.register x = m.register x
  | index => n.i = m.i
  | stack => n.stack = m.stack
  | delay => n.timers.delay = m.timers.delay
  | sound => n.timers.sound = m.timers.sound
  | lastDecay => n.timers.lastDecay = m.timers.lastDecay
  | screen => n.screen = m.screen
  | keys => n.keys = m.keys
  | random => n.random = m.random

theorem Same.trans {m n k : Machine} {place : Place} (hmn : place.Same m n)
    (hnk : place.Same n k) : place.Same m k := by
  cases place <;> exact Eq.trans hnk hmn

/-- The bytes from an address on that lie below the limit of transfers. -/
def bytes (addr : Word) (len : Nat) : List Place :=
  ((List.range' addr.toNat len).filter (· < 0xFFF)).map byte

theorem mem_bytes {addr : Word} {len p : Nat} :
    byte p ∈ bytes addr len ↔ (addr.toNat ≤ p ∧ p < addr.toNat + len) ∧ p < 0xFFF := by
  simp [bytes]

/-- The registers from the first to the given one. -/
def registersTo (x : Nibble) : List Place :=
  ((List.finRange 16).filter (· ≤ x)).map register

theorem mem_registersTo {x y : Nibble} : register y ∈ registersTo x ↔ y ≤ x := by
  simp [registersTo]

end Place

/-- The places that an instruction may write to while the index register holds `i`. -/
def Instruction.footprint (i : Word) : Instruction → List Place
  | .clearScreen => [.screen]
  | .ret | .call _ => [.stack]
  | .loadByte x _ | .addByte x _ | .copy x _ | .readDelay x | .awaitKey x => [.register x]
  | .or x _ | .and x _ | .xor x _ | .add x _ | .sub x _ | .subFrom x _ | .shiftRight x
  | .shiftLeft x => [.register x, .register Machine.flag]
  | .setIndex _ | .addIndex _ | .pointAtDigit _ => [.index]
  | .random x _ => [.register x, .random]
  | .draw _ _ _ => [.screen, .register Machine.flag]
  | .setDelay _ => [.delay]
  | .setSound _ => [.sound]
  | .storeDecimal _ => Place.bytes i 3
  | .storeRegisters x => Place.bytes i (x.val + 1)
  | .loadRegisters x => Place.registersTo x
  | .jump _ | .jumpOffset _ | .skipIfByte _ _ | .skipUnlessByte _ _ | .skipIfSame _ _
  | .skipIfDiffer _ _ | .skipIfHeld _ | .skipUnlessHeld _ => []

namespace Machine

/-! ## Where an update changes nothing -/

section Updates

variable (m : Machine) {place : Place}

theorem same_pc (pc : Word) : place.Same m { m with pc := pc } := by
  cases place <;> rfl

theorem same_pc_stack (hplace : place ≠ .stack) (pc : Word) (stack : CallStack) :
    place.Same m { m with pc := pc, stack := stack } := by
  cases place with
  | stack => exact absurd rfl hplace
  | _ => rfl

theorem same_index (hplace : place ≠ .index) (i : Word) : place.Same m { m with i := i } := by
  cases place with
  | index => exact absurd rfl hplace
  | _ => rfl

theorem same_delay (hplace : place ≠ .delay) (b : Byte) :
    place.Same m { m with timers := { m.timers with delay := b } } := by
  cases place with
  | delay => exact absurd rfl hplace
  | _ => rfl

theorem same_sound (hplace : place ≠ .sound) (b : Byte) :
    place.Same m { m with timers := { m.timers with sound := b } } := by
  cases place with
  | sound => exact absurd rfl hplace
  | _ => rfl

theorem same_screen (hplace : place ≠ .screen) (screen : Framebuffer) :
    place.Same m { m with screen := screen } := by
  cases place with
  | screen => exact absurd rfl hplace
  | _ => rfl

theorem same_random (hplace : place ≠ .random) (random : RandomSource) :
    place.Same m { m with random := random } := by
  cases place with
  | random => exact absurd rfl hplace
  | _ => rfl

theorem same_table {v : Table Byte} (hv : ∀ x, place = .register x → v.entry x = m.register x) :
    place.Same m { m with v := v } := by
  cases place with
  | register x => exact hv x rfl
  | _ => rfl

theorem same_setRegister {x : Nibble} (hplace : place ≠ .register x) (b : Byte) :
    place.Same m (m.setRegister x b) := by
  apply same_table
  rintro y rfl
  have hne : x ≠ y := fun h => hplace (congrArg Place.register h.symm)
  exact (register_setRegister m x y b).trans (if_neg hne)

theorem same_setWithFlag {x : Nibble} (hplace : place ∉ [.register x, .register flag])
    (result flagValue : Byte) : place.Same m (m.setWithFlag x result flagValue) := by
  have hx := List.ne_of_not_mem_cons hplace
  have hflag := List.ne_of_not_mem_cons (List.not_mem_of_not_mem_cons hplace)
  exact (same_setRegister m hx result).trans (same_setRegister _ hflag flagValue)

/-- Loading at most the registers to a given one leaves the others. -/
theorem same_setRegisters {x : Nibble} {bytes : List Byte} (hbytes : bytes.length ≤ x.val + 1)
    (hplace : place ∉ Place.registersTo x) : place.Same m (m.setRegisters bytes) := by
  apply same_table
  rintro y rfl
  have hy : ¬ y ≤ x := fun h => hplace (Place.mem_registersTo.mpr h)
  rw [Fin.le_def] at hy
  refine (register_setRegisters m bytes y).trans ?_
  rw [List.getD_eq_default _ _ (by omega)]

/-- Writing at an address changes at most the bytes from there on that lie below the limit. -/
theorem same_write {addr : Word} (data : List Byte)
    (hplace : place ∉ Place.bytes addr data.length) :
    place.Same m { m with memory := (m.memory.write addr data).1 } := by
  cases place with
  | byte p =>
      refine (Memory.byteAt_write m.memory addr data p).trans (if_neg fun h => ?_)
      exact hplace (Place.mem_bytes.mpr ⟨⟨h.1, h.2.1⟩, h.2.2⟩)
  | _ => rfl

end Updates

/-! ## Instructions and steps -/

theorem length_registersTo (m : Machine) (x : Nibble) : (m.registersTo x).length = x.val + 1 := by
  rw [registersTo, List.length_take, Vector.length_toList]
  omega

/-- An instruction changes nothing outside its footprint. -/
theorem same_execute (m : Machine) (address : Word) (ins : Instruction) {place : Place}
    (hplace : place ∉ ins.footprint m.i) : place.Same m (m.execute address ins).machine := by
  cases ins with
  | clearScreen => exact same_screen m (List.ne_of_not_mem_cons hplace) _
  | ret =>
      simp only [execute, executeReturn]
      cases m.stack.pop? with
      | none => exact same_pc m m.pc
      | some p => exact same_pc_stack m (List.ne_of_not_mem_cons hplace) p.1 p.2
  | call target =>
      simp only [execute, executeCall]
      cases m.stack.push? m.pc with
      | none => exact same_pc m m.pc
      | some stack => exact same_pc_stack m (List.ne_of_not_mem_cons hplace) _ stack
  | jump _ | jumpOffset _ => exact same_pc m _
  | skipIfByte _ _ | skipUnlessByte _ _ | skipIfSame _ _ | skipIfDiffer _ _ | skipIfHeld _
  | skipUnlessHeld _ =>
      simp only [execute, skipIf_eq]
      exact same_pc m _
  | loadByte x _ | addByte x _ | copy x _ | readDelay x =>
      exact same_setRegister m (List.ne_of_not_mem_cons hplace) _
  | awaitKey x =>
      simp only [execute, executeAwaitKey]
      cases m.keys.first? with
      | none => exact same_pc m _
      | some key => exact same_setRegister m (List.ne_of_not_mem_cons hplace) _
  | or _ _ | and _ _ | xor _ _ | add _ _ | sub _ _ | subFrom _ _ | shiftRight _ | shiftLeft _ =>
      exact same_setWithFlag m hplace _ _
  | setIndex _ | addIndex _ | pointAtDigit _ => exact same_index m (List.ne_of_not_mem_cons hplace) _
  | random x mask =>
      have hx := List.ne_of_not_mem_cons hplace
      have hrandom := List.ne_of_not_mem_cons (List.not_mem_of_not_mem_cons hplace)
      exact (same_random m hrandom _).trans (same_setRegister _ hx _)
  | draw x y rows =>
      have hscreen := List.ne_of_not_mem_cons hplace
      have hflag := List.ne_of_not_mem_cons (List.not_mem_of_not_mem_cons hplace)
      exact (same_screen m hscreen _).trans (same_setRegister _ hflag _)
  | setDelay _ => exact same_delay m (List.ne_of_not_mem_cons hplace) _
  | setSound _ => exact same_sound m (List.ne_of_not_mem_cons hplace) _
  | storeDecimal x => exact same_write m (Decimal.digits (m.register x)) hplace
  | storeRegisters x =>
      refine same_write m (m.registersTo x) ?_
      rw [length_registersTo]
      exact hplace
  | loadRegisters x =>
      refine same_setRegisters m ?_ hplace
      rw [Memory.length_slice, Memory.room_eq]
      exact Nat.min_le_left _ _

/-- An instruction that goes well asks for the screen to be shown if and only if it may write to
the screen. -/
theorem redraw_iff_of_answerOf {m : Machine} {address : Word} {ins : Instruction} {redraw : Bool}
    (h : m.answerOf address ins = .ok redraw) (i : Word) :
    redraw = true ↔ .screen ∈ ins.footprint i := by
  cases ins with
  | ret | call _ =>
      simp only [answerOf] at h
      split at h <;> cases h
      simp [Instruction.footprint]
  | storeDecimal _ | storeRegisters _ =>
      cases h
      simp [Instruction.footprint, Place.bytes]
  | loadRegisters _ =>
      cases h
      simp [Instruction.footprint, Place.registersTo]
  | _ =>
      cases h
      simp [Instruction.footprint]

/-- A step that carries out an instruction changes nothing outside the footprint of the instruction,
but that the timers may decay once at its end. It never writes to the keys, and it asks for the
screen to be shown again exactly when the instruction may write to the screen. -/
theorem step_keeps_outside_footprint {m : Machine} {now : Instant} {ins : Instruction}
    (h : m.CarriesOut now ins) :
    ∃ next status,
      (∀ place, place ∉ ins.footprint m.i → place.Same m next) ∧
      (m.step now).machine = { next with timers := (next.timers.update now).1 } ∧
      (m.step now).machine.keys = m.keys ∧
      (m.step now).answer = .ok status ∧
      (status.redraw = true ↔ .screen ∈ ins.footprint m.i) := by
  obtain ⟨-, next, redraw, log, heffect, hstep⟩ := h.step_eq
  have hsame : ∀ place, place ∉ ins.footprint m.i → place.Same m next := by
    intro place hplace
    have hexecute := same_execute m.advance m.pc ins hplace
    rw [heffect] at hexecute
    exact (same_pc m (m.pc + 2)).trans hexecute
  have hkeys : .keys ∉ ins.footprint m.i := by
    cases ins <;> simp [Instruction.footprint, Place.bytes, Place.registersTo]
  have hanswer : m.advance.answerOf m.pc ins = .ok redraw := by
    rw [← answer_execute, heffect]
  rw [hstep]
  exact ⟨next, _, hsame, rfl, hsame .keys hkeys, rfl, redraw_iff_of_answerOf hanswer m.i⟩

/-- A machine that is about to store four registers two bytes before the limit of transfers. -/
def atLastStore : Machine := { holding [0xF3, 0x55] with i := 0xFFD }

theorem step_keeps_outside_footprint_atLastStore :
    atLastStore.CarriesOut 0 (.storeRegisters 3) ∧
    (Instruction.storeRegisters 3).footprint atLastStore.i = [.byte 0xFFD, .byte 0xFFE] ∧
    ∃ next status,
      (∀ place, place ∉ (Instruction.storeRegisters 3).footprint atLastStore.i →
        place.Same atLastStore next) ∧
      (atLastStore.step 0).machine = { next with timers := (next.timers.update 0).1 } ∧
      (atLastStore.step 0).machine.keys = atLastStore.keys ∧
      (atLastStore.step 0).answer = .ok status ∧
      (status.redraw = true ↔
        .screen ∈ (Instruction.storeRegisters 3).footprint atLastStore.i) := by
  have hcarries : atLastStore.CarriesOut 0 (.storeRegisters 3) :=
    carriesOut_of_isOk (by decide +kernel) (by decide +kernel) (by decide +kernel) 0
  exact ⟨hcarries, by decide +kernel, step_keeps_outside_footprint hcarries⟩

end Machine

end Chip8
