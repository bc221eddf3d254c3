import Mathlib.Data.List.Infix
import Chip8.Proofs.Stepping

/-!
# Subroutines return behind their call

As long as a run leaves more addresses on the call stack than there were before a
call, the addresses from before the call, and the one that the call stacked, stay
the last ones of the live list. The return that takes the call's address off
therefore goes behind the call and restores the stack.
-/

namespace Chip8.Machine

/-- Addresses at the end of the live list stay there while they all stay live. -/
theorem StackMove.suffix {m : Machine} {live base : List Word} (move : StackMove m live)
    (hbase : base <:+ m.stack.toList) (hlength : base.length ≤ live.length) : base <:+ live := by
  cases move with
  | kept => exact hbase
  | pushed hpc => exact hbase.trans (List.suffix_cons _ _)
  | popped =>
      cases hlist : m.stack.toList with
      | nil =>
          rw [hlist] at hbase
          exact hbase
      | cons top rest =>
          rw [hlist] at hbase hlength
          rcases List.suffix_cons_iff.mp hbase with rfl | hrest
          · -- The top address is one of them, but a pop has taken it off.
            simp only [List.length_cons, List.tail_cons] at hlength
            omega
          · exact hrest
  | emptied =>
      obtain rfl := List.eq_nil_of_length_eq_zero (Nat.le_zero.mp hlength)
      exact List.nil_suffix

/-- Over a run that never goes below them, addresses at the end of the live list stay there. -/
theorem suffix_afterAll {m : Machine} {base : List Word} {ops : List Operation}
    (hbase : base <:+ m.stack.toList)
    (habove : ∀ done, done <+: ops → base.length ≤ (m.afterAll done).stack.depth) :
    base <:+ (m.afterAll ops).stack.toList := by
  induction ops generalizing m with
  | nil => exact hbase
  | cons op ops ih =>
      have hnext : base.length ≤ (m.perform op).machine.stack.toList.length := by
        rw [CallStack.length_toList]
        exact habove [op] ⟨ops, rfl⟩
      apply ih ((m.stackMove_perform op).suffix hbase hnext)
      intro done hdone
      exact habove (op :: done) (List.cons_prefix_cons.mpr ⟨rfl, hdone⟩)

/-- A call stacks the address behind it. -/
theorem CarriesOut.toList_call {m : Machine} {now : Instant} {target : Address}
    (h : m.CarriesOut now (.call target)) :
    (m.step now).machine.stack.toList = (m.pc + 2) :: m.stack.toList := by
  obtain ⟨-, next, redraw, log, heffect, hstep⟩ := h.step_eq
  have hroom : m.advance.stack.depth ≠ 16 := by
    intro hfull
    have hanswer := answer_execute m.advance m.pc (.call target)
    rw [heffect, answerOf, if_pos hfull] at hanswer
    cases hanswer
  have hlive := toList_stack_execute m.advance m.pc (.call target)
  rw [heffect, liveAfter, if_neg hroom] at hlive
  rw [hstep]
  exact hlive

/-- A return goes to the address on top and takes it off. -/
theorem CarriesOut.ret {m : Machine} {now : Instant} {target : Word} {rest : List Word}
    (h : m.CarriesOut now .ret) (hlist : m.stack.toList = target :: rest) :
    (m.step now).machine.pc = target ∧ (m.step now).machine.stack.toList = rest := by
  obtain ⟨-, next, redraw, log, heffect, hstep⟩ := h.step_eq
  have hpc := pc_execute_ret m.advance m.pc hlist
  have hlive := toList_stack_execute m.advance m.pc .ret
  rw [heffect] at hpc hlive
  rw [hstep]
  refine ⟨hpc, hlive.trans ?_⟩
  exact congrArg List.tail hlist

/-- A return at the depth that a call has left goes behind this call and restores the stack from
before it, whatever has been done since, if the depth has never been below. -/
theorem ret_returns_behind_call {m : Machine} {now later : Instant} {target : Address}
    {ops : List Operation} (hcall : m.CarriesOut now (.call target))
    (habove : ∀ done, done <+: ops →
      m.stack.depth + 1 ≤ ((m.step now).machine.afterAll done).stack.depth)
    (hdepth : ((m.step now).machine.afterAll ops).stack.depth = m.stack.depth + 1)
    (hret : ((m.step now).machine.afterAll ops).CarriesOut later .ret) :
    let called := (m.step now).machine
    let returned := ((called.afterAll ops).step later).machine
    called.stack.depth = m.stack.depth + 1 ∧
      returned.pc.toNat = m.pc.toNat + 2 ∧
      returned.stack.depth = m.stack.depth ∧
      returned.stack.toList = m.stack.toList := by
  intro called returned
  have hcalled : called.stack.toList = (m.pc + 2) :: m.stack.toList := hcall.toList_call
  have hsuffix : ((m.pc + 2) :: m.stack.toList) <:+ (called.afterAll ops).stack.toList := by
    apply suffix_afterAll
    · rw [hcalled]
    · intro done hdone
      rw [List.length_cons, CallStack.length_toList]
      exact habove done hdone
  have hlist : (called.afterAll ops).stack.toList = (m.pc + 2) :: m.stack.toList := by
    apply (hsuffix.eq_of_length _).symm
    rw [CallStack.length_toList, List.length_cons, CallStack.length_toList]
    exact hdepth.symm
  obtain ⟨hpc, hrest⟩ := hret.ret hlist
  refine ⟨?_, ?_, ?_, hrest⟩
  · rw [← CallStack.length_toList, hcalled, List.length_cons, CallStack.length_toList]
  · rw [hpc]
    exact toNat_pc_advance hcall.step_eq.1
  · rw [← CallStack.length_toList, hrest, CallStack.length_toList]

/-- A machine at a call behind which stand a nested call and two returns. -/
def atNestedCalls : Machine := holding [0x22, 0x02, 0x22, 0x06, 0x00, 0xEE, 0x00, 0xEE]

/-- A nested call and its return, a key and a failing load, for between a call and its return. -/
def nestedRun : List Operation :=
  [.step 1, .key ⟨3, by decide⟩ true, .load ⟨[0x12, 0x00], some "unreadable"⟩, .step 2]

theorem ret_returns_behind_call_atNestedCalls :
    let called := (atNestedCalls.step 0).machine
    let returned := ((called.afterAll nestedRun).step 3).machine
    called.stack.depth = 1 ∧ returned.pc.toNat = 0x202 ∧ returned.stack.depth = 0 ∧
      returned.stack.toList = [] := by
  have hcall : atNestedCalls.CarriesOut 0 (.call 0x202) :=
    carriesOut_of_isOk (by decide +kernel) (by decide +kernel) (by decide +kernel) 0
  have hdepth : ((atNestedCalls.step 0).machine.afterAll nestedRun).stack.depth = 1 := by
    decide +kernel
  have hret : ((atNestedCalls.step 0).machine.afterAll nestedRun).CarriesOut 3 .ret :=
    carriesOut_of_isOk (by decide +kernel) (by decide +kernel) (by decide +kernel) 3
  have habove : ∀ done ∈ nestedRun.inits,
      1 ≤ ((atNestedCalls.step 0).machine.afterAll done).stack.depth := by decide +kernel
  exact ret_returns_behind_call hcall (fun done h => habove done ((List.mem_inits ..).mpr h))
    hdepth hret

end Chip8.Machine
