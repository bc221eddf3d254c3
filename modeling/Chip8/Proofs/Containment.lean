import Chip8.Proofs.Guarded.Operation

/-!
# What every history keeps within bounds

`Contained` bounds the parts of a machine that a history could drive out of range. The
bound on the program counter is not kept by an instruction alone: it rests on the fetch,
which finds no word at the end of memory, on the addresses that calls have stacked, and
on the range of the jumps. The invariant takes all of them together.
-/

namespace Chip8.Machine

/-- The parts of a machine stay within their bounds. -/
structure Contained (m : Machine) : Prop where
  counter : m.pc.toNat ≤ 0x10FE
  depth : m.stack.depth ≤ 16
  returns : ∀ a ∈ m.stack.toList, 2 ≤ a.toNat ∧ a.toNat ≤ 0xFFF
  cells : m.screen.cells.length = 2048 ∧ ∀ c ∈ m.screen.cells, c = 0 ∨ c = 1
  size : m.memory.bytes.toList.length = 4096
  last : m.memory.byteAt 0xFFF = 0

theorem contained_of_bounds {m : Machine} (hcounter : m.pc.toNat ≤ 0x10FE)
    (hreturns : ∀ a ∈ m.stack.toList, 2 ≤ a.toNat ∧ a.toNat ≤ 0xFFF)
    (hlast : m.memory.byteAt 0xFFF = 0) : m.Contained where
  counter := hcounter
  depth := m.stack.depth_le
  returns := hreturns
  cells := ⟨by simp [Framebuffer.cells], fun c hc => Framebuffer.eq_zero_or_one_of_mem_cells hc⟩
  size := by simp
  last := hlast

theorem contained_start (keys : Keypad) (random : RandomSource) (now : Instant) :
    (start keys random now).Contained := by
  refine contained_of_bounds (show Memory.programStart.toNat ≤ 0x10FE by decide) ?_ ?_
  · intro a ha
    simp only [start, CallStack.toList_empty, List.not_mem_nil] at ha
  · simp only [start, Memory.byteAt_initial]
    rw [if_neg (by omega)]

/-- A transfer does not reach the last byte of memory. -/
theorem byteAt_last_write (m : Memory) (addr : Word) (data : List Byte) :
    (m.write addr data).1.byteAt 0xFFF = m.byteAt 0xFFF := by
  rw [Memory.byteAt_write, if_neg]
  intro h
  exact absurd h.2.2 (by decide)

/-- An instruction that stands wholly in memory leads at most to the last address that a jump with
an offset can reach. -/
theorem toNat_pc_execute_le {m : Machine} (hlow : 2 ≤ m.pc.toNat) (hhigh : m.pc.toNat ≤ 0xFFF)
    (hreturns : ∀ a ∈ m.stack.toList, 2 ≤ a.toNat ∧ a.toNat ≤ 0xFFF) (address : Word)
    (ins : Instruction) : (m.execute address ins).machine.pc.toNat ≤ 0x10FE := by
  have hkept : m.pc.toNat ≤ 0x10FE := by omega
  have haddress : ∀ target : Address, (target.setWidth 16).toNat ≤ 0xFFF := by
    intro target
    have := target.isLt
    rw [BitVec.toNat_setWidth]
    omega
  cases ins with
  | ret =>
      cases hlist : m.stack.toList with
      | nil =>
          have hdepth := CallStack.toList_eq_nil_iff.mp hlist
          simp only [execute, executeReturn, CallStack.pop?_eq_none_iff.mpr hdepth]
          exact hkept
      | cons target rest =>
          have htarget := hreturns target (by rw [hlist]; exact List.mem_cons_self ..)
          rw [pc_execute_ret m address hlist]
          omega
  | jump target =>
      have := haddress target
      simp only [execute, done]
      omega
  | call target =>
      have := haddress target
      simp only [execute, executeCall]
      split
      · simp only [done]
        omega
      · exact hkept
  | skipIfByte _ _ | skipUnlessByte _ _ | skipIfSame _ _ | skipIfDiffer _ _ | skipIfHeld _
  | skipUnlessHeld _ =>
      simp only [execute, done, skipIf_eq]
      split
      · rw [BitVec.toNat_add, show (2 : Word).toNat = 2 from rfl]
        omega
      · exact hkept
  | jumpOffset base =>
      have := haddress base
      have := (m.register offset).isLt
      simp only [execute, done, BitVec.toNat_add]
      rw [BitVec.toNat_setWidth (x := m.register offset)]
      omega
  | awaitKey x =>
      simp only [execute, executeAwaitKey]
      split
      · exact hkept
      · simp only [done, BitVec.toNat_sub, show (2 : Word).toNat = 2 from rfl]
        omega
  | _ => exact hkept

theorem StackMove.returns {m : Machine} {live : List Word} (move : StackMove m live)
    (hreturns : ∀ a ∈ m.stack.toList, 2 ≤ a.toNat ∧ a.toNat ≤ 0xFFF) :
    ∀ a ∈ live, 2 ≤ a.toNat ∧ a.toNat ≤ 0xFFF := by
  cases move with
  | kept => exact hreturns
  | pushed hpc =>
      intro a ha
      rcases List.mem_cons.mp ha with rfl | hlive
      · have hcounter := toNat_pc_advance hpc
        simp only [advance] at hcounter
        omega
      · exact hreturns a hlive
  | popped => exact fun a ha => hreturns a (List.mem_of_mem_tail ha)
  | emptied => exact fun a ha => absurd ha (List.not_mem_nil)

theorem toNat_pc_step_le {m : Machine} (h : m.Contained) (now : Instant) :
    (m.step now).machine.pc.toNat ≤ 0x10FE := by
  have houtcome := m.step_outcome now
  generalize m.step now = outcome at houtcome
  cases houtcome with
  | runaway hpc => exact h.counter
  | undecoded hpc _ | refused hpc _ _ =>
      have := toNat_pc_advance hpc
      change m.advance.pc.toNat ≤ 0x10FE
      omega
  | @finished ins redraw next log hpc _ heffect =>
      have hcounter := toNat_pc_advance hpc
      have hle := toNat_pc_execute_le (m := m.advance) (by omega) (by omega) h.returns m.pc ins
      rw [heffect] at hle
      exact hle

theorem byteAt_last_step (m : Machine) (now : Instant) :
    (m.step now).machine.memory.byteAt 0xFFF = m.memory.byteAt 0xFFF := by
  have houtcome := m.step_outcome now
  generalize m.step now = outcome at houtcome
  cases houtcome with
  | runaway _ | undecoded _ _ | refused _ _ _ => rfl
  | @finished ins redraw next log _ _ heffect =>
      have hmemory := memory_execute m.advance m.pc ins
      rw [heffect] at hmemory
      change next.memory.byteAt 0xFFF = _
      rw [hmemory, byteAt_last_write]
      rfl

/-- Every operation, whether it goes well or not, keeps a machine within its bounds. -/
theorem Contained.perform {m : Machine} (h : m.Contained) (op : Operation) :
    (m.perform op).machine.Contained := by
  have hreturns := (m.stackMove_perform op).returns h.returns
  cases op with
  | load source =>
      have hlast : (m.memory.loadProgram source).1.byteAt 0xFFF = 0 := by
        unfold Memory.loadProgram
        split
        · exact h.last
        · rw [byteAt_last_write, h.last]
      obtain ⟨pc, hpc, hload⟩ := m.machine_perform_load source
      rw [hload] at hreturns ⊢
      refine contained_of_bounds ?_ hreturns hlast
      rcases hpc with rfl | rfl
      · exact (by decide : Memory.programStart.toNat ≤ 0x10FE)
      · exact h.counter
  | reset now =>
      rw [machine_perform_reset]
      exact contained_start ..
  | step now =>
      exact contained_of_bounds (toNat_pc_step_le h now) hreturns
        ((m.byteAt_last_step now).trans h.last)
  | key key down => exact contained_of_bounds h.counter h.returns h.last
  | releaseKeys => exact contained_of_bounds h.counter h.returns h.last

/-- A new machine comes about, and after every history of it the machine is within its bounds and
no further operation goes wrong: every index and every slice is in range, and no sum, difference or
product of addresses leaves its width but in the index register. -/
theorem contained_and_guarded_afterAll (keys : Keypad) (random : RandomSource) (now : Instant)
    (ops : List Operation) :
    Guarded.create? keys random now = some (.ok (start keys random now)) ∧
      ((start keys random now).afterAll ops).Contained ∧
      ∀ op, Guarded.perform? ((start keys random now).afterAll ops) op =
        some (((start keys random now).afterAll ops).perform op) := by
  refine ⟨Guarded.create?_eq keys random now, ?_, fun op => Guarded.perform?_eq _ op⟩
  exact afterAll_invariant (fun m op h => h.perform op) (contained_start keys random now) ops

end Chip8.Machine
