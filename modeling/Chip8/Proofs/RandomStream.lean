import Chip8.Proofs.Faults
import Chip8.Proofs.Footprint
import Chip8.Proofs.LastWriter

/-!
# The bytes of the random source

A source is only ever read forwards, so that the draws from it can be counted: `byte` is the byte that
comes after a number of them. `executed` is the list of the instructions that a history carries out. The
random ones among them are what the source is read for, one byte each, and nothing else that happens to
a machine reads it or puts it back.
-/

namespace Chip8

namespace RandomSource

/-- The source after a number of draws. -/
def after (r : RandomSource) : Nat → RandomSource
  | 0 => r
  | count + 1 => r.next.2.after count

/-- The byte of the draw that comes after a number of others. -/
def byte (r : RandomSource) (count : Nat) : Byte := (r.after count).next.1

theorem after_eq (r : RandomSource) (count : Nat) : r.after count = ⟨r.key, r.taken + count⟩ := by
  induction count generalizing r with
  | zero => rfl
  | succ count ih =>
      rw [after, ih, next, Nat.add_right_comm, Nat.add_assoc]

theorem after_add (r : RandomSource) (count more : Nat) :
    r.after (count + more) = (r.after count).after more := by
  simp only [after_eq, Nat.add_assoc]

/-- The bytes of a seed are those of the stream of its key, from the start. -/
theorem byte_ofSeed (seed : UInt64) (count : Nat) :
    (ofSeed seed).byte count = byteAt (spread seed) count := by
  rw [byte, after_eq, ofSeed, Nat.zero_add, next]

end RandomSource

/-- Whether an instruction asks for a random byte. -/
def Instruction.isRandom : Instruction → Bool
  | .random _ _ => true
  | _ => false

theorem Instruction.random_not_mem_footprint {ins : Instruction} (h : ins.isRandom = false)
    (i : Word) : Place.random ∉ ins.footprint i := by
  cases ins with
  | random _ _ => cases h
  | storeDecimal _ | storeRegisters _ => simp [footprint, Place.bytes]
  | loadRegisters _ => simp [footprint, Place.registersTo]
  | _ => simp [footprint]

namespace Machine

/-- The instruction that an operation carries out, if it is a step and goes well. -/
def executed? (m : Machine) : Operation → Option Instruction
  | .step now =>
    match (m.step now).answer with
    | .ok _ => Instruction.decode? m.fetched
    | .error _ => none
  | _ => none

/-- The instructions that a history carries out, in order. -/
def executed (m : Machine) : List Operation → List Instruction
  | [] => []
  | op :: ops => (m.executed? op).toList ++ (m.perform op).machine.executed ops

theorem CarriesOut.executed?_eq {m : Machine} {now : Instant} {ins : Instruction}
    (h : m.CarriesOut now ins) : m.executed? (.step now) = some ins := by
  obtain ⟨status, hanswer⟩ := h.2
  simp only [executed?, hanswer, h.decode?_fetched.2]

theorem executed?_eq_some_iff {m : Machine} {op : Operation} {ins : Instruction} :
    m.executed? op = some ins ↔ ∃ now, op = .step now ∧ m.CarriesOut now ins := by
  constructor
  · intro h
    cases op with
    | step now =>
        cases hanswer : (m.step now).answer with
        | error fault => simp only [executed?, hanswer, reduceCtorEq] at h
        | ok status =>
            obtain ⟨other, hother⟩ := carriesOut_of_ok hanswer
            cases hother.executed?_eq.symm.trans h
            exact ⟨now, rfl, hother⟩
    | load _ | reset _ | key _ _ | releaseKeys => cases h
  · rintro ⟨now, rfl, h⟩
    exact h.executed?_eq

/-- An instruction reads the source for one byte if it asks for a random one, and not at all
otherwise. -/
theorem random_execute (m : Machine) (address : Word) (ins : Instruction) :
    (m.execute address ins).machine.random = m.random.after (if ins.isRandom then 1 else 0) := by
  cases hrandom : ins.isRandom with
  | false => exact same_execute m address ins (Instruction.random_not_mem_footprint hrandom m.i)
  | true =>
      cases ins with
      | random x mask => rfl
      | _ => cases hrandom

/-- An operation that carries out nothing leaves the source alone, a step that fails no less than the
other operations. -/
theorem random_perform_of_none {m : Machine} {op : Operation} (h : m.executed? op = none) :
    (m.perform op).machine.random = m.random := by
  cases op with
  | load source =>
      obtain ⟨pc, -, hload⟩ := m.machine_perform_load source
      rw [hload]
  | reset now => rw [machine_perform_reset, start]
  | key _ _ | releaseKeys => rfl
  | step now =>
      change (m.step now).machine.random = m.random
      cases hanswer : (m.step now).answer with
      | ok status =>
          obtain ⟨ins, hins⟩ := carriesOut_of_ok hanswer
          cases h.symm.trans hins.executed?_eq
      | error fault =>
          rw [(stops_of_step_error hanswer).2]
          split <;> rfl

theorem random_perform_of_some {m : Machine} {op : Operation} {ins : Instruction}
    (h : m.executed? op = some ins) :
    (m.perform op).machine.random = m.random.after (if ins.isRandom then 1 else 0) := by
  obtain ⟨now, rfl, hins⟩ := executed?_eq_some_iff.mp h
  change (m.step now).machine.random = _
  rw [hins.machine_step]
  exact random_execute m.advance m.pc ins

/-- After a history the source has been read for one byte for each random instruction that the history
has carried out. -/
theorem random_afterAll (m : Machine) (ops : List Operation) :
    (m.afterAll ops).random = m.random.after ((m.executed ops).countP Instruction.isRandom) := by
  induction ops generalizing m with
  | nil => rfl
  | cons op ops ih =>
      rw [afterAll_cons, ih, executed, List.countP_append, RandomSource.after_add]
      congr 1
      cases h : m.executed? op with
      | none => exact random_perform_of_none h
      | some ins =>
          rw [random_perform_of_some h, Option.toList_some, List.countP_singleton]

/-- A random instruction puts the next byte of the source, under its mask, into its register, and
changes no other. -/
theorem CarriesOut.random {m : Machine} {now : Instant} {x : Nibble} {mask : Byte}
    (h : m.CarriesOut now (.random x mask)) :
    (m.step now).machine.register x = m.random.next.1 &&& mask ∧
      ∀ r, r ≠ x → (m.step now).machine.register r = m.register r := by
  rw [h.machine_step]
  constructor
  · exact register_setRegister_self ..
  · intro r hr
    exact (register_setRegister _ x r _).trans (if_neg hr.symm)

/-- Whatever is done to a machine that starts with the source of a seed, the random instructions that
are carried out take the bytes of this source in order: one that comes after `count` others gives its
register the byte after `count` draws, under its mask, changes no other register, and leaves the next
byte to be drawn. Every operation that carries out no random instruction leaves the source as it is. -/
theorem random_instructions_follow_stream (seed : UInt64) (keys : Keypad) (now : Instant)
    (ops : List Operation) :
    let source := RandomSource.ofSeed seed
    let fresh := start keys source now
    let m := fresh.afterAll ops
    let count := (fresh.executed ops).countP Instruction.isRandom
    m.random = source.after count ∧
    (∀ time x mask, m.CarriesOut time (.random x mask) →
      (m.step time).machine.register x = source.byte count &&& mask ∧
      (∀ r, r ≠ x → (m.step time).machine.register r = m.register r) ∧
      (m.step time).machine.random = source.after (count + 1)) ∧
    ∀ op, (∀ time x mask, op = .step time → ¬m.CarriesOut time (.random x mask)) →
      (m.perform op).machine.random = m.random := by
  intro source fresh m count
  have hsource : m.random = source.after count := random_afterAll fresh ops
  refine ⟨hsource, ?_, ?_⟩
  · intro time x mask h
    obtain ⟨hregister, hothers⟩ := h.random
    refine ⟨?_, hothers, ?_⟩
    · rw [hregister, hsource, RandomSource.byte]
    · rw [RandomSource.after_add, ← hsource]
      exact random_perform_of_some h.executed?_eq
  · intro op h
    cases hins : m.executed? op with
    | none => exact random_perform_of_none hins
    | some ins =>
        obtain ⟨time, hop, hcarries⟩ := executed?_eq_some_iff.mp hins
        have hordinary : ins.isRandom = false := by
          cases ins with
          | random x mask => exact absurd hcarries (h time x mask hop)
          | _ => rfl
        rw [random_perform_of_some hins, hordinary]
        rfl

/-- A program that asks for a random byte is loaded and stepped, and again after a reset, which has
cleared the memory so that the step in between fails. -/
def acrossReset : List Operation :=
  let program := ByteSource.ofList [0xC0, 0xFF]
  [.load program, .step 0, .reset 0, .step 0, .load program]

theorem random_instructions_follow_stream_acrossReset :
    let m := made.afterAll acrossReset
    (made.executed acrossReset).countP Instruction.isRandom = 1 ∧
      m.CarriesOut 0 (.random 0 0xFF) ∧
      (m.step 0).machine.register 0 = (RandomSource.ofSeed 0).byte 1 &&& 0xFF ∧
      (m.perform (.reset 0)).machine.random = m.random := by
  intro m
  obtain ⟨-, hrandom, hothers⟩ :=
    random_instructions_follow_stream 0 Keypad.released 0 acrossReset
  rw [start_eq_made] at hrandom hothers
  have hclosed : (made.executed acrossReset).countP Instruction.isRandom = 1 ∧
      m.pc.toNat < 0xFFE ∧ Instruction.decode? m.fetched = some (.random 0 0xFF) := by
    decide +kernel
  obtain ⟨hcount, hpc, hword⟩ := hclosed
  have hcarries := carriesOut_of_isOk hpc hword rfl 0
  refine ⟨hcount, hcarries, ?_, ?_⟩
  · rw [← hcount]
    exact (hrandom 0 0 0xFF hcarries).1
  · exact hothers (.reset 0) fun _ _ _ h => nomatch h

end Machine

end Chip8
