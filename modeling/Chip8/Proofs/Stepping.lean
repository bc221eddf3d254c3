import Chip8.Machine.Operation
import Chip8.Proofs.Decoding

/-!
# What a step and an operation can do

`StepOutcome` lists the four ways a step can go, each with everything it leaves
behind. Below it, one lemma for each part of the machine says what an instruction
does to this part: its answer, the live return addresses, the memory and the
program counter. `afterAll_invariant` carries what every operation keeps to whole
histories.
-/

namespace Chip8.Machine

/-- The word that the two bytes at the program counter make, high byte first. -/
def fetched (m : Machine) : Word :=
  Word.ofBytes (m.memory.byteAt m.pc.toNat) (m.memory.byteAt (m.pc.toNat + 1))

/-- The machine with the program counter moved past the instruction it points at. -/
def advance (m : Machine) : Machine := { m with pc := m.pc + 2 }

/-- The counter can be moved past every word that can be fetched. -/
theorem toNat_pc_advance {m : Machine} (hpc : m.pc.toNat < 0xFFE) :
    m.advance.pc.toNat = m.pc.toNat + 2 := by
  simp only [advance, BitVec.toNat_add]
  rw [show (2 : Word).toNat = 2 from rfl]
  omega

theorem word?_pc (m : Machine) :
    m.memory.word? m.pc = if m.pc.toNat < 0xFFE then some m.fetched else none := by
  have hlimit : Memory.limit = 0xFFF := rfl
  rw [Memory.word?_eq]
  by_cases hpc : m.pc.toNat < 0xFFE
  · rw [if_pos hpc, if_pos (by omega)]
    rfl
  · rw [if_neg hpc, if_neg (by omega)]

theorem instructionAt_pc (m : Machine) :
    m.instructionAt m.pc =
      if m.pc.toNat < 0xFFE then .ok m.fetched else .error (.programRunaway m.pc) := by
  rw [instructionAt, word?_pc]
  by_cases hpc : m.pc.toNat < 0xFFE
  · rw [if_pos hpc, if_pos hpc]
  · rw [if_neg hpc, if_neg hpc]

/-! ## The parts of the machine under one instruction -/

section Execute

variable (m : Machine) (address : Word)

/-- What an instruction answers: whether the screen has to be shown again, or that
the call stack has no address, or no room, for it. -/
def answerOf : Instruction → Except Fault Bool
  | .clearScreen | .draw _ _ _ => .ok true
  | .ret => if m.stack.depth = 0 then .error (.stackUnderflow address) else .ok false
  | .call _ => if m.stack.depth = 16 then .error (.stackOverflow address) else .ok false
  | _ => .ok false

theorem answer_execute (ins : Instruction) :
    (m.execute address ins).answer = m.answerOf address ins := by
  cases ins with
  | ret =>
      simp only [execute, executeReturn, answerOf]
      cases h : m.stack.pop? with
      | none => rw [if_pos (CallStack.pop?_eq_none_iff.mp h)]
      | some p =>
          rw [if_neg (CallStack.depth_ne_of_pop? h)]
          rfl
  | call target =>
      simp only [execute, executeCall, answerOf]
      cases h : m.stack.push? m.pc with
      | none => rw [if_pos (CallStack.push?_eq_none_iff.mp h)]
      | some s =>
          rw [if_neg (CallStack.depth_ne_of_push? h)]
          rfl
  | awaitKey x =>
      simp only [execute, executeAwaitKey, answerOf]
      cases m.keys.first? <;> rfl
  | _ => rfl

/-- An instruction that fails leaves the machine as it found it and reports nothing. -/
theorem execute_of_error {ins : Instruction} {fault : Fault}
    (h : (m.execute address ins).answer = .error fault) :
    m.execute address ins = ⟨m, .error fault, []⟩ := by
  cases ins with
  | ret =>
      simp only [execute, executeReturn] at h ⊢
      cases hpop : m.stack.pop? with
      | none => rw [hpop] at h; rw [← h]
      | some p => rw [hpop] at h; cases h
  | call target =>
      simp only [execute, executeCall] at h ⊢
      cases hpush : m.stack.push? m.pc with
      | none => rw [hpush] at h; rw [← h]
      | some s => rw [hpush] at h; cases h
  | awaitKey x =>
      rw [answer_execute] at h
      cases h
  | _ => cases h

/-- The live return addresses that an instruction leaves. -/
def liveAfter : Instruction → List Word
  | .ret => m.stack.toList.tail
  | .call _ => if m.stack.depth = 16 then m.stack.toList else m.pc :: m.stack.toList
  | _ => m.stack.toList

theorem toList_stack_execute (ins : Instruction) :
    (m.execute address ins).machine.stack.toList = m.liveAfter ins := by
  cases ins with
  | ret =>
      simp only [execute, executeReturn, liveAfter]
      cases h : m.stack.pop? with
      | none =>
          have hempty := CallStack.toList_eq_nil_iff.mpr (CallStack.pop?_eq_none_iff.mp h)
          simp only [hempty, List.tail_nil]
      | some p => simp only [done, CallStack.toList_of_pop? (a := p.1) (t := p.2) h,
          List.tail_cons]
  | call target =>
      simp only [execute, executeCall, liveAfter]
      cases h : m.stack.push? m.pc with
      | none => rw [if_pos (CallStack.push?_eq_none_iff.mp h)]
      | some s =>
          rw [if_neg (CallStack.depth_ne_of_push? h)]
          exact CallStack.toList_of_push? h
  | awaitKey x =>
      simp only [execute, executeAwaitKey, liveAfter]
      cases m.keys.first? <;> rfl
  | skipIfByte _ _ | skipUnlessByte _ _ | skipIfSame _ _ | skipIfDiffer _ _ | skipIfHeld _
  | skipUnlessHeld _ =>
      simp only [execute, skipIf_eq]
      rfl
  | _ => rfl

/-- A return that finds an address goes there. -/
theorem pc_execute_ret {target : Word} {rest : List Word}
    (h : m.stack.toList = target :: rest) : (m.execute address .ret).machine.pc = target := by
  simp only [execute, executeReturn]
  cases hpop : m.stack.pop? with
  | none =>
      have hlength := m.stack.length_toList
      rw [h, CallStack.pop?_eq_none_iff.mp hpop] at hlength
      cases hlength
  | some p =>
      have htop := CallStack.toList_of_pop? (a := p.1) (t := p.2) hpop
      exact (List.cons.inj (htop.symm.trans h)).1

/-- The bytes that an instruction writes to memory, from the index register on. -/
def stored : Instruction → List Byte
  | .storeDecimal x => Decimal.digits (m.register x)
  | .storeRegisters x => m.registersTo x
  | _ => []

theorem memory_execute (ins : Instruction) :
    (m.execute address ins).machine.memory = (m.memory.write m.i (m.stored ins)).1 := by
  have hnothing : (m.memory.write m.i []).1 = m.memory := by rw [Memory.write_nil]
  cases ins with
  | ret =>
      simp only [execute, executeReturn, stored, hnothing]
      cases m.stack.pop? <;> rfl
  | call target =>
      simp only [execute, executeCall, stored, hnothing]
      cases m.stack.push? m.pc <;> rfl
  | awaitKey x =>
      simp only [execute, executeAwaitKey, stored, hnothing]
      cases m.keys.first? <;> rfl
  | skipIfByte _ _ | skipUnlessByte _ _ | skipIfSame _ _ | skipIfDiffer _ _ | skipIfHeld _
  | skipUnlessHeld _ =>
      simp only [execute, skipIf_eq, stored, hnothing]
      rfl
  | storeDecimal _ | storeRegisters _ => rfl
  | _ =>
      simp only [stored, hnothing]
      rfl

end Execute

/-! ## One step -/

/-- The ways a step can go, each with everything it leaves. -/
inductive StepOutcome (m : Machine) (now : Instant) : Outcome Status → Prop
  /-- There is no complete word at the program counter. -/
  | runaway (hpc : 0xFFE ≤ m.pc.toNat) :
      StepOutcome m now ⟨m, .error (.programRunaway m.pc), []⟩
  /-- The word at the program counter is no instruction. -/
  | undecoded (hpc : m.pc.toNat < 0xFFE) (hword : Instruction.decode? m.fetched = none) :
      StepOutcome m now ⟨m.advance, .error (.unknownOpcode m.fetched m.pc), []⟩
  /-- The instruction cannot be carried out. -/
  | refused {ins : Instruction} {fault : Fault} (hpc : m.pc.toNat < 0xFFE)
      (hword : Instruction.decode? m.fetched = some ins)
      (hanswer : m.advance.answerOf m.pc ins = .error fault) :
      StepOutcome m now ⟨m.advance, .error fault, [.executing m.pc m.fetched ins]⟩
  /-- The instruction is carried out, and the timers are updated after it. -/
  | finished {ins : Instruction} {redraw : Bool} {next : Machine} {log : List LogLine}
      (hpc : m.pc.toNat < 0xFFE) (hword : Instruction.decode? m.fetched = some ins)
      (heffect : m.advance.execute m.pc ins = ⟨next, .ok redraw, log⟩) :
      StepOutcome m now ⟨(next.settle now redraw).1, .ok (next.settle now redraw).2,
        .executing m.pc m.fetched ins :: log⟩

theorem step_of_runaway {m : Machine} (hpc : 0xFFE ≤ m.pc.toNat) (now : Instant) :
    m.step now = ⟨m, .error (.programRunaway m.pc), []⟩ := by
  simp only [step, instructionAt_pc, if_neg (Nat.not_lt.mpr hpc)]

theorem step_of_undecoded {m : Machine} (hpc : m.pc.toNat < 0xFFE)
    (hword : Instruction.decode? m.fetched = none) (now : Instant) :
    m.step now = ⟨m.advance, .error (.unknownOpcode m.fetched m.pc), []⟩ := by
  simp only [step, instructionAt_pc, if_pos hpc, hword]
  rfl

theorem step_of_decode? {m : Machine} {ins : Instruction} (hpc : m.pc.toNat < 0xFFE)
    (hword : Instruction.decode? m.fetched = some ins) (now : Instant) :
    m.step now =
      match m.advance.execute m.pc ins with
      | ⟨next, .error fault, log⟩ =>
        ⟨next, .error fault, .executing m.pc m.fetched ins :: log⟩
      | ⟨next, .ok redraw, log⟩ =>
        ⟨(next.settle now redraw).1, .ok (next.settle now redraw).2,
          .executing m.pc m.fetched ins :: log⟩ := by
  simp only [step, instructionAt_pc, if_pos hpc, hword]
  rfl

theorem step_outcome (m : Machine) (now : Instant) : StepOutcome m now (m.step now) := by
  by_cases hpc : m.pc.toNat < 0xFFE
  · cases hword : Instruction.decode? m.fetched with
    | none =>
        rw [step_of_undecoded hpc hword]
        exact .undecoded hpc hword
    | some ins =>
        rw [step_of_decode? hpc hword]
        cases heffect : m.advance.execute m.pc ins with
        | mk next answer log =>
        cases answer with
        | error fault =>
            have hanswer : m.advance.answerOf m.pc ins = .error fault := by
              rw [← answer_execute, heffect]
            have hsame := execute_of_error m.advance m.pc ((answer_execute ..).trans hanswer)
            cases heffect.symm.trans hsame
            exact .refused hpc hword hanswer
        | ok redraw => exact .finished hpc hword heffect
  · have hpc : 0xFFE ≤ m.pc.toNat := Nat.not_lt.mp hpc
    rw [step_of_runaway hpc]
    exact .runaway hpc

/-- The machine finds the word of an instruction at its program counter. -/
def Finds (m : Machine) (ins : Instruction) : Prop :=
  ∃ spare, m.instructionAt m.pc = .ok (ins.word spare)

/-- The word of an instruction is found where it is decoded to this instruction. -/
theorem Finds.decode?_fetched {m : Machine} {ins : Instruction} (h : m.Finds ins) :
    m.pc.toNat < 0xFFE ∧ Instruction.decode? m.fetched = some ins := by
  obtain ⟨spare, hfetch⟩ := h
  rw [instructionAt_pc] at hfetch
  split at hfetch
  next hpc =>
    refine ⟨hpc, ?_⟩
    rw [Except.ok.inj hfetch]
    exact Instruction.decode?_word ins spare
  next => cases hfetch

theorem finds_of_decode? {m : Machine} {ins : Instruction} (hpc : m.pc.toNat < 0xFFE)
    (hword : Instruction.decode? m.fetched = some ins) : m.Finds ins := by
  obtain ⟨spare, hspare⟩ := Instruction.decode?_eq_some_iff.mp hword
  exact ⟨spare, by rw [instructionAt_pc, if_pos hpc, hspare]⟩

/-- The step finds the word of an instruction at the program counter and carries it out. -/
def CarriesOut (m : Machine) (now : Instant) (ins : Instruction) : Prop :=
  (∃ spare, m.instructionAt m.pc = .ok (ins.word spare)) ∧
    ∃ status, (m.step now).answer = .ok status

theorem CarriesOut.finds {m : Machine} {now : Instant} {ins : Instruction}
    (h : m.CarriesOut now ins) : m.Finds ins :=
  h.1

/-- A step carries out the instruction that the word at the program counter is decoded to. -/
theorem CarriesOut.decode?_fetched {m : Machine} {now : Instant} {ins : Instruction}
    (h : m.CarriesOut now ins) :
    m.pc.toNat < 0xFFE ∧ Instruction.decode? m.fetched = some ins :=
  h.finds.decode?_fetched

/-- What a step leaves that carries out an instruction. -/
theorem CarriesOut.step_eq {m : Machine} {now : Instant} {ins : Instruction}
    (h : m.CarriesOut now ins) :
    m.pc.toNat < 0xFFE ∧ ∃ next redraw log,
      m.advance.execute m.pc ins = ⟨next, .ok redraw, log⟩ ∧
      m.step now = ⟨(next.settle now redraw).1, .ok (next.settle now redraw).2,
        .executing m.pc m.fetched ins :: log⟩ := by
  obtain ⟨hpc, hword⟩ := h.decode?_fetched
  obtain ⟨-, status, hanswer⟩ := h
  refine ⟨hpc, ?_⟩
  rw [step_of_decode? hpc hword] at hanswer ⊢
  cases heffect : m.advance.execute m.pc ins with
  | mk next answer log =>
  rw [heffect] at hanswer
  cases answer with
  | error fault => cases hanswer
  | ok redraw => exact ⟨next, redraw, log, rfl, rfl⟩

/-- The machine after a step that carries out an instruction is the one that the instruction leaves,
but for the update of its timers. -/
theorem CarriesOut.machine_step {m : Machine} {now : Instant} {ins : Instruction}
    (h : m.CarriesOut now ins) :
    (m.step now).machine =
      let next := (m.advance.execute m.pc ins).machine
      { next with timers := (next.timers.update now).1 } := by
  obtain ⟨-, next, redraw, log, heffect, hstep⟩ := h.step_eq
  rw [hstep, heffect]
  rfl

/-- An instruction that can be fetched is carried out unless the call stack refuses it. -/
theorem carriesOut_of_isOk {m : Machine} {ins : Instruction} (hpc : m.pc.toNat < 0xFFE)
    (hword : Instruction.decode? m.fetched = some ins)
    (hanswer : (m.advance.answerOf m.pc ins).isOk) (now : Instant) : m.CarriesOut now ins := by
  refine ⟨finds_of_decode? hpc hword, ?_⟩
  rw [step_of_decode? hpc hword]
  rw [← answer_execute] at hanswer
  cases heffect : m.advance.execute m.pc ins with
  | mk next answer log =>
  rw [heffect] at hanswer
  cases answer with
  | error fault => cases hanswer
  | ok redraw => exact ⟨_, rfl⟩

/-- An instruction that is found is carried out unless the call stack refuses it. -/
theorem Finds.carriesOut {m : Machine} {ins : Instruction} (h : m.Finds ins)
    (hanswer : (m.advance.answerOf m.pc ins).isOk) (now : Instant) : m.CarriesOut now ins := by
  obtain ⟨hpc, hword⟩ := h.decode?_fetched
  exact carriesOut_of_isOk hpc hword hanswer now

/-- A step that goes well carries out an instruction. -/
theorem carriesOut_of_ok {m : Machine} {now : Instant} {status : Status}
    (h : (m.step now).answer = .ok status) : ∃ ins, m.CarriesOut now ins := by
  have houtcome := m.step_outcome now
  generalize hstep : m.step now = outcome at houtcome
  cases houtcome with
  | runaway _ | undecoded _ _ | refused _ _ _ =>
      rw [hstep] at h
      cases h
  | @finished ins _ _ _ hpc hword _ =>
      exact ⟨ins, finds_of_decode? hpc hword, status, h⟩

/-- A machine with all bytes zero but those of a program, which is about to start. -/
def holding (program : List Byte) (hsize : program.length ≤ 0xE00 := by decide) : Machine :=
  { ofSeed 0 0 with
    memory := ⟨⟨⟨List.replicate 0x200 0 ++ program ++
      List.replicate (0xE00 - program.length) 0⟩, by
        simp only [List.size_toArray, List.length_append, List.length_replicate]
        omega⟩⟩ }

/-! ## One operation -/

theorem reset_eq (m : Machine) (now : Instant) :
    m.reset now = ⟨start m.keys m.random now, .ok (), [.machineReset]⟩ := by
  simp only [reset, Memory.loadFont_bytes, Framebuffer.clear_eq_blank]
  rfl

theorem machine_perform_reset (m : Machine) (now : Instant) :
    (m.perform (.reset now)).machine = start m.keys m.random now := by
  simp only [perform, Outcome.map, reset_eq]

/-- A load changes memory and, if it goes well, the counter. -/
theorem machine_perform_load (m : Machine) (source : ByteSource) :
    ∃ pc, (pc = Memory.programStart ∨ pc = m.pc) ∧ (m.perform (.load source)).machine =
      { m with memory := (m.memory.loadProgram source).1, pc := pc } := by
  simp only [perform, Outcome.map, load]
  split
  next hload => exact ⟨Memory.programStart, .inl rfl, by rw [hload]⟩
  next hload => exact ⟨m.pc, .inr rfl, by rw [hload]⟩

/-- What an operation can make of the live return addresses. -/
inductive StackMove (m : Machine) : List Word → Prop
  | kept : StackMove m m.stack.toList
  | pushed (hpc : m.pc.toNat < 0xFFE) : StackMove m ((m.pc + 2) :: m.stack.toList)
  | popped : StackMove m m.stack.toList.tail
  | emptied : StackMove m []

theorem stackMove_step (m : Machine) (now : Instant) :
    StackMove m (m.step now).machine.stack.toList := by
  cases h : m.step now with
  | mk next answer log =>
  have houtcome := m.step_outcome now
  rw [h] at houtcome
  cases houtcome with
  | runaway hpc => exact .kept
  | undecoded hpc hword => exact .kept
  | refused hpc hword hanswer => exact .kept
  | @finished ins redraw done log hpc hword heffect =>
      have hlive : done.stack.toList = m.advance.liveAfter ins := by
        rw [← toList_stack_execute m.advance m.pc, heffect]
      change StackMove m done.stack.toList
      rw [hlive]
      cases ins with
      | ret => exact .popped
      | call target =>
          simp only [liveAfter]
          split
          · exact .kept
          · exact .pushed hpc
      | _ => exact .kept

theorem stackMove_perform (m : Machine) (op : Operation) :
    StackMove m (m.perform op).machine.stack.toList := by
  cases op with
  | load source =>
      obtain ⟨pc, -, hload⟩ := m.machine_perform_load source
      rw [hload]
      exact .kept
  | reset now =>
      rw [machine_perform_reset]
      exact .emptied
  | step now => exact m.stackMove_step now
  | key key down => exact .kept
  | releaseKeys => exact .kept

/-! ## Histories -/

@[simp] theorem afterAll_nil (m : Machine) : m.afterAll [] = m := rfl

@[simp] theorem afterAll_cons (m : Machine) (op : Operation) (ops : List Operation) :
    m.afterAll (op :: ops) = (m.perform op).machine.afterAll ops := rfl

theorem afterAll_append (m : Machine) (ops more : List Operation) :
    m.afterAll (ops ++ more) = (m.afterAll ops).afterAll more := by
  simp only [afterAll, List.foldl_append]

/-- What holds of a machine and is kept by every operation holds after every history. -/
theorem afterAll_invariant {P : Machine → Prop}
    (hstep : ∀ m op, P m → P (m.perform op).machine) {m : Machine} (hstart : P m)
    (ops : List Operation) : P (m.afterAll ops) := by
  induction ops generalizing m with
  | nil => exact hstart
  | cons op ops ih => exact ih (hstep m op hstart)

end Chip8.Machine
