import Chip8.Proofs.Footprint
import Chip8.Proofs.LoopAccess

/-!
# The picture on the screen is never stale

Most instructions are followed by no frame. Nothing is missed, because a step that
changes the screen of the machine asks for a frame. `UpToDate` says which frames have
been shown after some cycles, and that the last of them shows the screen as it is;
`Fresh` says what becomes of this at each place of the loop, and every access keeps it.
Others may write to the keypad and the controls, and so pause the machine, at any time.
-/

namespace Chip8

/-- The instruction is one of the two that change the screen. -/
def Instruction.draws : Instruction → Bool
  | .clearScreen | .draw _ _ _ => true
  | _ => false

namespace Machine

/-- The program counter points at an instruction that changes the screen. -/
def drawsNext (m : Machine) : Bool :=
  match m.instructionAt m.pc with
  | .ok word => (Instruction.decode? word).any Instruction.draws
  | .error _ => false

theorem drawsNext_of_decode? {m : Machine} {ins : Instruction} (hpc : m.pc.toNat < 0xFFE)
    (hword : Instruction.decode? m.fetched = some ins) : m.drawsNext = ins.draws := by
  simp only [drawsNext, instructionAt_pc, if_pos hpc, hword, Option.any_some]

theorem draws_of_answerOf {m : Machine} {address : Word} {ins : Instruction} {redraw : Bool}
    (h : m.answerOf address ins = .ok redraw) : redraw = ins.draws := by
  cases ins with
  | ret | call _ =>
      simp only [answerOf] at h
      split at h <;> cases h
      rfl
  | _ =>
      cases h
      rfl

/-- A step that goes well asks for a frame exactly if its instruction changes the screen. -/
theorem redraw_step {m : Machine} {now : Instant} {status : Status}
    (h : (m.step now).answer = .ok status) : status.redraw = m.drawsNext := by
  have houtcome := m.step_outcome now
  generalize m.step now = outcome at h houtcome
  cases houtcome with
  | runaway _ | undecoded _ _ | refused _ _ _ => cases h
  | finished hpc hword heffect =>
      obtain rfl := Except.ok.inj h
      rw [drawsNext_of_decode? hpc hword]
      apply draws_of_answerOf
      rw [← answer_execute, heffect]
      rfl

/-- A step leaves the screen as it is, unless it carries out an instruction that changes the
screen. -/
theorem screen_step {m : Machine} {now : Instant}
    (h : ((m.step now).answer.isOk && m.drawsNext) = false) :
    (m.step now).machine.screen = m.screen := by
  have houtcome := m.step_outcome now
  generalize m.step now = outcome at h houtcome
  cases houtcome with
  | runaway _ | undecoded _ _ | refused _ _ _ => rfl
  | @finished ins redraw next log hpc hword heffect =>
      have hdraws : ins.draws = false := (drawsNext_of_decode? hpc hword).symm.trans h
      have hanswer : m.advance.answerOf m.pc ins = .ok redraw := by
        rw [← answer_execute, heffect]
      have hplace : .screen ∉ ins.footprint m.advance.i := by
        rw [← redraw_iff_of_answerOf hanswer, draws_of_answerOf hanswer, hdraws]
        exact Bool.false_ne_true
      have hsame := same_execute m.advance m.pc ins hplace
      rw [heffect] at hsame
      exact hsame

end Machine

namespace RunLoop

variable (s : Surroundings)

namespace Cycle

/-- The step of the machine in a cycle. -/
def outcome (c : Cycle) : Outcome Status :=
  c.emulator.machine.step (s.clock c.emulator.instructions)

/-- The frame that shows the machine after the step of a cycle. -/
def frame (c : Cycle) : Frame :=
  ⟨(c.outcome s).machine.screen, (c.outcome s).machine.statusLine⟩

/-- A cycle is due to show a frame: its step goes well, and either the instruction changes the
screen or the machine is paused. -/
def isDue (c : Cycle) : Bool :=
  (c.outcome s).answer.isOk && (c.emulator.machine.drawsNext || c.paused)

variable {s}

/-- When an instruction has gone well, the cycle is due if the loop finds that a frame is needed. -/
theorem isDue_of_ok {c : Cycle} {status : Status} (h : (c.outcome s).answer = .ok status) :
    c.isDue s = (status.redraw || c.paused) := by
  rw [isDue, h, Machine.redraw_step h]
  rfl

end Cycle

/-- The frames shown are those before the run, a first frame, and one for each cycle that is due,
and the last of them shows the screen as it is. -/
structure UpToDate (e : Emulator) (cycles : List Cycle) (now : Emulator) : Prop where
  shown : now.shown = e.shown ++ e.frame :: (cycles.filter (·.isDue s)).map (·.frame s)
  current : now.shown.getLast?.map Frame.screen = some now.machine.screen

variable {s}

namespace UpToDate

variable {e now next : Emulator} {before : List Cycle} {c : Cycle}

theorem withShared (h : UpToDate s e before now) (shared : Shared) :
    UpToDate s e before (now.withShared shared) :=
  ⟨h.shown, h.current⟩

theorem upToSound (h : UpToDate s e before now) (hsound : now.UpToSound next) :
    UpToDate s e before next := by
  refine ⟨hsound.shown.trans h.shown, ?_⟩
  rw [hsound.shown, hsound.machine]
  exact h.current

/-- Handing over a frame that is to come next brings the screen up to date. -/
theorem presented {result : Except Fault Unit} (hpresent : now.present s = (next, result))
    (hshown : now.shown ++ [now.frame] =
      e.shown ++ e.frame :: (before.filter (·.isDue s)).map (·.frame s)) :
    UpToDate s e before next := by
  obtain rfl : (now.present s).1 = next := congrArg Prod.fst hpresent
  refine ⟨(Emulator.shown_present s now).trans hshown, ?_⟩
  rw [Emulator.shown_present, List.getLast?_concat, ← Emulator.frame_present s now]
  rfl

/-- After a cycle that is not due the screen is still up to date without a frame. -/
theorem notDue (h : UpToDate s e before c.emulator) (hdue : c.isDue s = false)
    (hshown : now.shown = c.emulator.shown) (hframe : now.frame = c.frame s) :
    UpToDate s e (before ++ [c]) now := by
  have hquiet : ((c.outcome s).answer.isOk && c.emulator.machine.drawsNext) = false := by
    rw [Cycle.isDue, Bool.and_or_distrib_left, Bool.or_eq_false_iff] at hdue
    exact hdue.1
  have hscreen : now.machine.screen = c.emulator.machine.screen :=
    (congrArg Frame.screen hframe).trans (Machine.screen_step hquiet)
  constructor
  · simp [hshown, h.shown, hdue]
  · rw [hshown, h.current, hscreen]

end UpToDate

/-- The places of the loop at which no cycle is under way. -/
def betweenCycles : LoopPoint → Bool
  | .checking | .gate | .stepRequest | .instruction | .finished _ => true
  | .opening | .looking _ | .drawing => false

/-- The places at which the loop is about to look whether to end, or is at its end. -/
def atCheck : LoopPoint → Bool
  | .checking | .finished _ => true
  | .opening | .gate | .stepRequest | .instruction | .looking _ | .drawing => false

/-- What has been shown at each place of the loop, by the cycles that have begun. -/
inductive Fresh (s : Surroundings) (e : Emulator) : List Cycle → RunLoop → Prop
  | opening {now : Emulator} {n : Nat} (hshown : now.shown = e.shown)
      (hframe : now.frame = e.frame) : Fresh s e [] ⟨now, n, .opening⟩
  | between {cycles : List Cycle} {now : Emulator} {n : Nat} {point : LoopPoint}
      (hpoint : betweenCycles point = true) (h : UpToDate s e cycles now) :
      Fresh s e cycles ⟨now, n, point⟩
  | looking {before : List Cycle} {c : Cycle} {now : Emulator} {n : Nat} {status : Status}
      (h : UpToDate s e before c.emulator) (hshown : now.shown = c.emulator.shown)
      (hframe : now.frame = c.frame s) (hpaused : now.controls.paused = c.paused)
      (hanswer : (c.outcome s).answer = .ok status) :
      Fresh s e (before ++ [c]) ⟨now, n, .looking status⟩
  | drawing {before : List Cycle} {c : Cycle} {now : Emulator} {n : Nat}
      (h : UpToDate s e before c.emulator) (hshown : now.shown = c.emulator.shown)
      (hframe : now.frame = c.frame s) (hdue : c.isDue s = true) :
      Fresh s e (before ++ [c]) ⟨now, n, .drawing⟩

/-- Every access keeps what has been shown in step with the machine, whatever others write after
it. -/
theorem Fresh.access {e : Emulator} {cycles : List Cycle} {l next : RunLoop}
    (h : Fresh s e cycles l) (haccess : Access s l next) (write : Shared → Shared) :
    Fresh s e (cycles ++ begun l (next.overwritten write)) (next.overwritten write) := by
  cases haccess with
  | opened hpresent | openingFailed hpresent =>
      cases h with
      | between hpoint _ => cases hpoint
      | opening hshown hframe =>
          have hnext : UpToDate s e [] _ := .presented hpresent (by rw [hshown, hframe]; rfl)
          exact .between rfl (hnext.withShared _)
  | @ended now n _ =>
      cases h with
      | between _ h =>
          have hnext := h.upToSound (Emulator.upToSound_stopped s now n)
          rw [begun, List.append_nil]
          exact .between rfl (hnext.withShared _)
  | goesOn _ _ | running _ | paused _ | granted _ | waited _ =>
      cases h with
      | between _ h =>
          rw [begun, List.append_nil]
          exact .between rfl ⟨h.shown, h.current⟩
  | carriedOut hinstruct =>
      cases h with
      | between _ h =>
          -- The cycle that begins here records what the others leave of the pause flag.
          obtain ⟨hsound, hanswer⟩ := Emulator.of_instruct hinstruct
          exact .looking h hsound.shown hsound.frame rfl hanswer
  | @failed now next n fault hinstruct =>
      cases h with
      | between _ h =>
          obtain ⟨hsound, hanswer⟩ := Emulator.of_instruct hinstruct
          have hstop := hsound.trans (Emulator.upToSound_syncSound s false next)
          refine .between rfl (UpToDate.notDue h ?_ hstop.shown hstop.frame)
          rw [Cycle.isDue, Cycle.outcome, hanswer]
          rfl
  | noFrame hneeds =>
      cases h with
      | between hpoint _ => cases hpoint
      | looking h hshown hframe hpaused hanswer =>
          rw [begun, List.append_nil]
          refine .between rfl (UpToDate.notDue h ?_ hshown hframe)
          rw [Cycle.isDue_of_ok hanswer, ← hpaused]
          exact hneeds
  | frameDue hneeds =>
      cases h with
      | between hpoint _ => cases hpoint
      | looking h hshown hframe hpaused hanswer =>
          rw [begun, List.append_nil]
          refine .drawing h hshown hframe ?_
          rw [Cycle.isDue_of_ok hanswer, ← hpaused]
          exact hneeds
  | drawn hpresent =>
      cases h with
      | between hpoint _ => cases hpoint
      | @drawing before c _ _ h hshown hframe hdue =>
          rw [begun, List.append_nil]
          have hnext : UpToDate s e (before ++ [c]) _ :=
            .presented hpresent (by simp [hshown, hframe, h.shown, hdue])
          exact .between rfl (hnext.withShared _)
  | drawingFailed hpresent =>
      cases h with
      | between hpoint _ => cases hpoint
      | @drawing before c _ _ h hshown hframe hdue =>
          -- The frame has been handed over, although drawing it has failed.
          rw [begun, List.append_nil]
          have hnext : UpToDate s e (before ++ [c]) _ :=
            .presented hpresent (by simp [hshown, hframe, h.shown, hdue])
          have hstop := hnext.upToSound (Emulator.upToSound_syncSound s false _)
          exact .between rfl (hstop.withShared _)
  | stays =>
      cases h with
      | between _ h =>
          rw [begun, List.append_nil]
          exact .between rfl (h.withShared _)

theorem fresh_after (s : Surroundings) (others : Nat → Shared → Shared) (e : Emulator) (k : Nat) :
    Fresh s e (cycles s others (start e) k) (after s others (start e) k) := by
  induction k with
  | zero =>
      have hstart : Emulator.UpToSound e (start e).emulator := Emulator.upToSound_note e rfl
      exact .opening hstart.shown hstart.frame
  | succ k ih => exact ih.access (access_advance s _) (others (k + 1))

theorem Fresh.upToDate {e : Emulator} {cycles : List Cycle} {l : RunLoop} (h : Fresh s e cycles l)
    (hpoint : atCheck l.point = true) : UpToDate s e cycles l.emulator := by
  cases h with
  | between _ h => exact h
  | opening _ _ | looking _ _ _ _ _ | drawing _ _ _ _ => cases hpoint

/-- Whenever the loop looks whether to end, and when it has come to its end, the last frame that was
handed to the screen shows the screen of the machine as it is. Besides the first frame there has
been exactly one for each cycle whose step went well and either carried out an instruction that
changes the screen or found the machine paused at its end; this frame shows the machine after the
step. Others may write to the keypad and the controls before every access of the loop. So it is in
particular when a run returns. -/
theorem upToDate_at_checks (s : Surroundings) (e : Emulator) :
    (∀ others k, atCheck (after s others (start e) k).point = true →
      UpToDate s e (cycles s others (start e) k) (after s others (start e) k).emulator) ∧
    ∀ fuel e' result, e.run s fuel = some (e', result) →
      UpToDate s e (cycles s alone (start e) fuel) e' := by
  have hchecks : ∀ others k, atCheck (after s others (start e) k).point = true →
      UpToDate s e (cycles s others (start e) k) (after s others (start e) k).emulator := by
    intro others k hpoint
    exact (fresh_after s others e k).upToDate hpoint
  refine ⟨hchecks, ?_⟩
  intro fuel e' result hrun
  obtain ⟨rfl, hpoint⟩ := after_of_runFor hrun
  exact hchecks alone fuel (by rw [hpoint, atCheck])

/-- Others pause the machine at the end of its second instruction, until the next access. -/
def pausedOnce : Nat → Shared → Shared := fun k shared =>
  { shared with controls := { shared.controls with paused := k == 9 } }

/-- An emulator whose machine clears the screen and then loads two registers. -/
def clearing : Emulator :=
  .start (Machine.holding [0x00, 0xE0, 0x60, 0x05, 0x61, 0x06]) (Config.ofRom "")

theorem upToDate_at_checks_pausedOnce :
    let l := after (.calm 0) pausedOnce (start clearing) 15
    let cycles := cycles (.calm 0) pausedOnce (start clearing) 15
    (atCheck l.point = true ∧ cycles.map (·.isDue (.calm 0)) = [true, true, false]) ∧
      UpToDate (.calm 0) clearing cycles l.emulator := by
  intro l cycles
  have hrun : atCheck l.point = true ∧ cycles.map (·.isDue (.calm 0)) = [true, true, false] := by
    decide +kernel
  exact ⟨hrun, (upToDate_at_checks (.calm 0) clearing).1 pausedOnce 15 hrun.1⟩

end RunLoop

end Chip8
