import Chip8.Proofs.LoopAccess

/-!
# What a run answers

A run answers with a number of instructions or with a fault. `Driven` says what so many
instructions have made of the emulator, `Account` that they all went well and kept to
the limit, and `Reached` what this comes to at each place of the loop; every access
keeps it. Where nothing stops the loop short, it is followed forwards, one cycle after
the other, until it comes to its limit.
-/

namespace Chip8

/-! ## Steps and changes of keys -/

/-- Steps at consecutive readings of the clock. -/
def steps (s : Surroundings) (first count : Nat) : List Operation :=
  (List.range count).map fun i => .step (s.clock (first + i))

theorem steps_succ (s : Surroundings) (first count : Nat) :
    steps s first (count + 1) = steps s first count ++ [.step (s.clock (first + count))] := by
  simp only [steps, List.range_succ, List.map_append, List.map_cons, List.map_nil]

/-- The operation changes a key as it happens while some frame is drawn. -/
def DrawnKey (s : Surroundings) (op : Operation) : Prop :=
  ∃ number key down, op = .key key down ∧ .key key down ∈ s.screen number

/-- The second machine is the first after steps at consecutive readings of the clock. Nothing else
has happened to it, except that keys may have changed while frames were drawn. -/
def Stepped (s : Surroundings) (first count : Nat) (m m' : Machine) : Prop :=
  ∃ ops : List Operation, m' = m.afterAll ops ∧
    ops.filter Operation.isStep = steps s first count ∧
    ∀ op ∈ ops, op.isStep = true ∨ DrawnKey s op

namespace Stepped

variable {s : Surroundings} {first count : Nat} {m m' : Machine}

theorem refl (s : Surroundings) (first : Nat) (m : Machine) : Stepped s first 0 m m :=
  ⟨[], rfl, rfl, by simp⟩

theorem step (h : Stepped s first count m m') :
    Stepped s first (count + 1) m (m'.step (s.clock (first + count))).machine := by
  obtain ⟨ops, rfl, hsteps, hkeys⟩ := h
  refine ⟨ops ++ [.step (s.clock (first + count))], ?_, ?_, ?_⟩
  · rw [Machine.afterAll_append]
    rfl
  · rw [List.filter_append, hsteps, steps_succ]
    rfl
  · intro op hop
    rcases List.mem_append.mp hop with hop | hop
    · exact hkeys op hop
    · obtain rfl := List.mem_singleton.mp hop
      exact .inl rfl

theorem keys (h : Stepped s first count m m') {ops : List Operation}
    (hops : ∀ op ∈ ops, DrawnKey s op) : Stepped s first count m (m'.afterAll ops) := by
  obtain ⟨before, rfl, hsteps, hkeys⟩ := h
  refine ⟨before ++ ops, (Machine.afterAll_append ..).symm, ?_, ?_⟩
  · have hnone : ops.filter Operation.isStep = [] := by
      refine List.filter_eq_nil_iff.mpr fun op hop => ?_
      obtain ⟨_, _, _, rfl, -⟩ := hops op hop
      exact Bool.false_ne_true
    rw [List.filter_append, hsteps, hnone, List.append_nil]
  · intro op hop
    rcases List.mem_append.mp hop with hop | hop
    · exact hkeys op hop
    · exact .inr (hops op hop)

/-- If no frame changes a key, the machine has taken the steps and nothing else has happened. -/
theorem eq_afterAll (h : Stepped s first count m m')
    (hkeys : ∀ number key down, .key key down ∉ s.screen number) :
    m' = m.afterAll (steps s first count) := by
  obtain ⟨ops, rfl, hsteps, hops⟩ := h
  have hall : ops.filter Operation.isStep = ops := by
    refine List.filter_eq_self.mpr fun op hop => ?_
    rcases hops op hop with hstep | ⟨number, key, down, -, hkey⟩
    · exact hstep
    · exact absurd hkey (hkeys number key down)
  rw [← hsteps, hall]

end Stepped

/-! ## Instructions and cycles -/

namespace Emulator

/-- The emulator has run a number of instructions since it was the first one. -/
structure Driven (s : Surroundings) (e : Emulator) (count : Nat) (now : Emulator) : Prop where
  instructions : now.instructions = e.instructions + count
  limit : now.limit = e.limit
  machine : Stepped s e.instructions count e.machine now.machine

namespace Driven

variable {s : Surroundings} {e now next : Emulator} {count : Nat}

theorem refl (s : Surroundings) (e : Emulator) : Driven s e 0 e :=
  ⟨rfl, rfl, .refl ..⟩

theorem upToSound (h : Driven s e count now) (hsound : now.UpToSound next) :
    Driven s e count next where
  instructions := hsound.instructions.trans h.instructions
  limit := hsound.limit.trans h.limit
  machine := by
    rw [hsound.machine]
    exact h.machine

theorem instruct (h : Driven s e count now) : Driven s e (count + 1) (now.instruct s).1 := by
  have hstep := h.machine.step
  rw [← h.instructions] at hstep
  have hnext : Driven s e (count + 1) { now with
      machine := (now.machine.step (s.clock now.instructions)).machine
      instructions := now.instructions + 1 } :=
    ⟨congrArg (· + 1) h.instructions, h.limit, hstep⟩
  exact hnext.upToSound (upToSound_instruct s now)

theorem present (h : Driven s e count now) : Driven s e count (now.present s).1 := by
  have hdisturbed := disturbed_present s now
  refine ⟨hdisturbed.instructions.trans h.instructions, hdisturbed.limit.trans h.limit, ?_⟩
  obtain ⟨ops, hops, hkeys⟩ := hdisturbed.machine
  rw [hops]
  refine h.machine.keys fun op hop => ?_
  obtain ⟨key, down, hop, hkey⟩ := hkeys op hop
  exact ⟨_, key, down, hop, hkey⟩

end Driven

variable {s : Surroundings} {e next last : Emulator} {status : Status} {fault : Fault}

theorem cycle_of_failed (h : e.instruct s = (next, .error fault)) :
    e.cycle s = (next, .error fault) := by
  simp only [cycle, h]

theorem cycle_of_noFrame (h : e.instruct s = (next, .ok status))
    (hneeds : next.needsFrame status = false) : e.cycle s = (next, .ok status) := by
  simp only [cycle, h, hneeds, Bool.false_eq_true, if_false]

theorem cycle_of_drawn (h : e.instruct s = (next, .ok status))
    (hneeds : next.needsFrame status = true) (hpresent : next.present s = (last, .ok ())) :
    e.cycle s = (last, .ok status) := by
  simp only [cycle, h, hneeds, hpresent, if_true]

theorem cycle_of_drawingFailed (h : e.instruct s = (next, .ok status))
    (hneeds : next.needsFrame status = true) (hpresent : next.present s = (last, .error fault)) :
    e.cycle s = (last, .error fault) := by
  simp only [cycle, h, hneeds, hpresent, if_true]

/-- A cycle runs one instruction, whether it goes well or not. -/
theorem Driven.cycle {now : Emulator} {count : Nat} (h : Driven s e count now) :
    Driven s e (count + 1) (now.cycle s).1 := by
  cases hinstruct : now.instruct s with
  | mk next answer =>
  have hnext : Driven s e (count + 1) next := by
    rw [show next = (now.instruct s).1 by rw [hinstruct]]
    exact h.instruct
  cases answer with
  | error fault =>
      rw [cycle_of_failed hinstruct]
      exact hnext
  | ok status =>
      cases hneeds : next.needsFrame status with
      | false =>
          rw [cycle_of_noFrame hinstruct hneeds]
          exact hnext
      | true =>
          have hlast := hnext.present
          cases hpresent : next.present s with
          | mk last drawn =>
          rw [hpresent] at hlast
          cases drawn with
          | error fault =>
              rw [cycle_of_drawingFailed hinstruct hneeds hpresent]
              exact hlast
          | ok _ =>
              rw [cycle_of_drawn hinstruct hneeds hpresent]
              exact hlast

end Emulator

namespace RunLoop

variable (s : Surroundings) (e : Emulator)

/-- The cycle goes well. -/
def Cycle.Succeeds (c : Cycle) : Prop := ∃ status, (c.emulator.cycle s).2 = .ok status

/-- The cycles have gone well, keep to the limit, and have made of the emulator what it is. -/
structure Account (cycles : List Cycle) (now : Emulator) : Prop where
  succeeded : ∀ c ∈ cycles, c.Succeeds s
  within : 0 < e.limit → cycles.length ≤ e.limit
  driven : Emulator.Driven s e cycles.length now

variable {s e}

theorem Account.nil {now : Emulator} (h : Emulator.Driven s e 0 now) : Account s e [] now :=
  ⟨by simp, fun _ => Nat.zero_le _, h⟩

theorem Account.upToSound {cycles : List Cycle} {now next : Emulator} (h : Account s e cycles now)
    (hsound : now.UpToSound next) : Account s e cycles next :=
  ⟨h.succeeded, h.within, h.driven.upToSound hsound⟩

theorem Account.withControls {cycles : List Cycle} {now : Emulator} (h : Account s e cycles now)
    (controls : Controls) : Account s e cycles { now with controls := controls } :=
  ⟨h.succeeded, h.within, ⟨h.driven.instructions, h.driven.limit, h.driven.machine⟩⟩

/-- One more cycle that goes well below the limit. -/
theorem Account.cycle {before : List Cycle} {c : Cycle} {next : Emulator} {status : Status}
    (h : Account s e before c.emulator) (hroom : 0 < e.limit → before.length < e.limit)
    (hcycle : c.emulator.cycle s = (next, .ok status)) : Account s e (before ++ [c]) next where
  succeeded := by
    intro d hd
    rcases List.mem_append.mp hd with hd | hd
    · exact h.succeeded d hd
    · obtain rfl := List.mem_singleton.mp hd
      exact ⟨status, congrArg Prod.snd hcycle⟩
  within := by
    intro hlimit
    rw [List.length_append]
    exact hroom hlimit
  driven := by
    rw [List.length_append, show next = (c.emulator.cycle s).1 by rw [hcycle]]
    exact h.driven.cycle

/-- The places of the loop behind the check and before the instruction. -/
def ahead : LoopPoint → Bool
  | .gate | .stepRequest | .instruction => true
  | .opening | .checking | .looking _ | .drawing | .finished _ => false

/-- What the cycles that have begun have come to at each place of the loop. -/
inductive Reached (s : Surroundings) (e : Emulator) : List Cycle → RunLoop → Prop
  | opening : Reached s e [] ⟨(start e).emulator, 0, .opening⟩
  | checking {cycles : List Cycle} {now : Emulator} (h : Account s e cycles now) :
      Reached s e cycles ⟨now, cycles.length, .checking⟩
  | ahead {cycles : List Cycle} {now : Emulator} {point : LoopPoint}
      (hpoint : ahead point = true) (h : Account s e cycles now)
      (hroom : 0 < e.limit → cycles.length < e.limit) :
      Reached s e cycles ⟨now, cycles.length, point⟩
  | looking {before : List Cycle} {c : Cycle} {now : Emulator} {status : Status}
      (h : Account s e before c.emulator) (hroom : 0 < e.limit → before.length < e.limit)
      (hinstruct : c.emulator.instruct s = (now, .ok status)) :
      Reached s e (before ++ [c]) ⟨now, before.length, .looking status⟩
  | drawing {before : List Cycle} {c : Cycle} {now : Emulator} {status : Status}
      (h : Account s e before c.emulator) (hroom : 0 < e.limit → before.length < e.limit)
      (hinstruct : c.emulator.instruct s = (now, .ok status))
      (hneeds : now.needsFrame status = true) :
      Reached s e (before ++ [c]) ⟨now, before.length, .drawing⟩
  | ended {cycles : List Cycle} {now : Emulator} (h : Account s e cycles now)
      (hend : now.controls.quit = true ∨ 0 < e.limit ∧ cycles.length = e.limit) :
      Reached s e cycles ⟨now, cycles.length, .finished (.ok cycles.length)⟩
  | openingFailed {now : Emulator} {fault : Fault}
      (h : (start e).emulator.present s = (now, .error fault)) :
      Reached s e [] ⟨now, 0, .finished (.error fault)⟩
  | cycleFailed {before : List Cycle} {c : Cycle} {now : Emulator} {fault : Fault}
      (h : Account s e before c.emulator) (hfault : (c.emulator.cycle s).2 = .error fault)
      (hsound : (c.emulator.cycle s).1.UpToSound now) :
      Reached s e (before ++ [c]) ⟨now, before.length, .finished (.error fault)⟩

theorem driven_present (s : Surroundings) (e : Emulator) :
    Emulator.Driven s e 0 ((start e).emulator.present s).1 :=
  ((Emulator.Driven.refl s e).upToSound (Emulator.upToSound_note e rfl)).present

/-- The loop is at a check when a cycle has been counted. -/
theorem Reached.completed {before : List Cycle} {c : Cycle} {now : Emulator}
    (h : Account s e (before ++ [c]) now) :
    Reached s e (before ++ [c]) ⟨now, before.length + 1, .checking⟩ := by
  have hchecking := Reached.checking h
  rw [List.length_append] at hchecking
  exact hchecking

/-- The loop is at its end when a cycle has failed and the sound has stopped. -/
theorem Reached.stopped {before : List Cycle} {c : Cycle} {next : Emulator} {fault : Fault}
    (h : Account s e before c.emulator) (hcycle : c.emulator.cycle s = (next, .error fault)) :
    Reached s e (before ++ [c])
      ⟨next.syncSound s false, before.length, .finished (.error fault)⟩ := by
  refine .cycleFailed h (congrArg Prod.snd hcycle) ?_
  rw [hcycle]
  exact Emulator.upToSound_syncSound s false next

/-- Every access keeps the account of the cycles that have begun. -/
theorem Reached.access {cycles : List Cycle} {l next : RunLoop} (h : Reached s e cycles l)
    (haccess : Access s l next) : Reached s e (cycles ++ begun l next) next := by
  cases haccess with
  | opened hpresent =>
      cases h with
      | ahead hpoint _ _ => cases hpoint
      | opening =>
          have hdriven := driven_present s e
          rw [hpresent] at hdriven
          exact .checking (.nil hdriven)
  | openingFailed hpresent =>
      cases h with
      | ahead hpoint _ _ => cases hpoint
      | opening => exact .openingFailed hpresent
  | @ended now n hend =>
      cases h with
      | ahead hpoint _ _ => cases hpoint
      | checking h =>
          -- The account keeps the count from passing the limit, so a limit that is reached is met.
          have hsound := Emulator.upToSound_stopped s now cycles.length
          rw [begun, List.append_nil]
          refine .ended (h.upToSound hsound) ?_
          rw [hsound.controls]
          rw [h.driven.limit] at hend
          refine hend.imp_right ?_
          rintro ⟨hlimit, hreached⟩
          exact ⟨hlimit, Nat.le_antisymm (h.within hlimit) hreached⟩
  | goesOn _ hlimit =>
      cases h with
      | ahead hpoint _ _ => cases hpoint
      | checking h =>
          rw [begun, List.append_nil]
          rw [h.driven.limit] at hlimit
          exact .ahead rfl h hlimit
  | running _ | paused _ =>
      cases h with
      | ahead _ h hroom =>
          rw [begun, List.append_nil]
          exact .ahead rfl h hroom
  | granted _ =>
      cases h with
      | ahead _ h hroom =>
          rw [begun, List.append_nil]
          exact .ahead rfl (h.withControls _) hroom
  | waited _ =>
      cases h with
      | ahead _ h hroom =>
          rw [begun, List.append_nil]
          exact .checking (h.withControls _)
  | carriedOut hinstruct =>
      cases h with
      | ahead _ h hroom => exact .looking h hroom hinstruct
  | failed hinstruct =>
      cases h with
      | ahead _ h _ => exact .stopped h (Emulator.cycle_of_failed hinstruct)
  | noFrame hneeds =>
      cases h with
      | ahead hpoint _ _ => cases hpoint
      | looking h hroom hinstruct =>
          rw [begun, List.append_nil]
          exact .completed (h.cycle hroom (Emulator.cycle_of_noFrame hinstruct hneeds))
  | frameDue hneeds =>
      cases h with
      | ahead hpoint _ _ => cases hpoint
      | looking h hroom hinstruct =>
          rw [begun, List.append_nil]
          exact .drawing h hroom hinstruct hneeds
  | drawn hpresent =>
      cases h with
      | ahead hpoint _ _ => cases hpoint
      | drawing h hroom hinstruct hneeds =>
          rw [begun, List.append_nil]
          exact .completed (h.cycle hroom (Emulator.cycle_of_drawn hinstruct hneeds hpresent))
  | drawingFailed hpresent =>
      cases h with
      | ahead hpoint _ _ => cases hpoint
      | drawing h _ hinstruct hneeds =>
          rw [begun, List.append_nil]
          exact .stopped h (Emulator.cycle_of_drawingFailed hinstruct hneeds hpresent)
  | stays =>
      rw [begun, List.append_nil]
      exact h

theorem reached_after (s : Surroundings) (e : Emulator) (k : Nat) :
    Reached s e (cycles s alone (start e) k) (after s alone (start e) k) := by
  induction k with
  | zero => exact .opening
  | succ k ih => exact ih.access (access_advance s _)

/-! ## Answers -/

theorem reached_of_run {fuel : Nat} {e' : Emulator} {result : Except Fault Nat}
    (h : e.run s fuel = some (e', result)) :
    ∃ n, Reached s e (cycles s alone (start e) fuel) ⟨e', n, .finished result⟩ := by
  obtain ⟨rfl, hpoint⟩ := after_of_runFor h
  refine ⟨(after s alone (start e) fuel).executed, ?_⟩
  rw [← hpoint]
  exact reached_after s e fuel

/-- A run that answers with a number has run as many cycles, all of which went well. -/
theorem account_of_run_ok {fuel n : Nat} {e' : Emulator} (h : e.run s fuel = some (e', .ok n)) :
    Account s e (cycles s alone (start e) fuel) e' ∧
      (cycles s alone (start e) fuel).length = n ∧
      (e'.controls.quit = true ∨ 0 < e.limit ∧ n = e.limit) := by
  obtain ⟨executed, hreached⟩ := reached_of_run h
  generalize cycles s alone (start e) fuel = begun at hreached ⊢
  cases hreached with
  | ended haccount hend => exact ⟨haccount, rfl, hend⟩
  | ahead hpoint _ _ => cases hpoint

/-- A run that answers with a fault has failed at its first frame or in its last cycle. -/
theorem fault_of_run_error {fuel : Nat} {e' : Emulator} {fault : Fault}
    (h : e.run s fuel = some (e', .error fault)) :
    Emulator.Driven s e (cycles s alone (start e) fuel).length e' ∧
      (cycles s alone (start e) fuel = [] ∧
          ((start e).emulator.present s).2 = .error fault ∨
        ∃ before last, cycles s alone (start e) fuel = before ++ [last] ∧
          (∀ c ∈ before, c.Succeeds s) ∧ (last.emulator.cycle s).2 = .error fault ∧
          e'.machine = (last.emulator.cycle s).1.machine) := by
  obtain ⟨executed, hreached⟩ := reached_of_run h
  generalize cycles s alone (start e) fuel = begun at hreached ⊢
  cases hreached with
  | openingFailed hpresent =>
      have hdriven := driven_present s e
      rw [hpresent] at hdriven ⊢
      exact ⟨hdriven, .inl ⟨rfl, rfl⟩⟩
  | @cycleFailed before last now _ haccount hfault hsound =>
      refine ⟨?_, .inr ⟨before, last, rfl, haccount.succeeded, hfault, hsound.machine⟩⟩
      rw [List.length_append]
      exact haccount.driven.cycle.upToSound hsound
  | ahead hpoint _ _ => cases hpoint

/-- The loop has seen that it is to quit, or is about to, or is at its end. -/
def Stopping (l : RunLoop) : Prop :=
  l.point = .checking ∧ l.emulator.controls.quit = true ∨ ∃ result, l.point = .finished result

theorem Stopping.access {l next : RunLoop} (h : Stopping l) (haccess : Access s l next) :
    Stopping next ∧ begun l next = [] := by
  cases haccess with
  | ended _ => exact ⟨.inr ⟨_, rfl⟩, rfl⟩
  | stays => exact ⟨.inr ⟨_, rfl⟩, rfl⟩
  | goesOn hquit _ =>
      rcases h with ⟨-, h⟩ | ⟨_, h⟩
      · rw [hquit] at h
        cases h
      · cases h
  | _ => rcases h with ⟨h, -⟩ | ⟨_, h⟩ <;> cases h

/-- No cycle begins once the loop has seen that it is to quit. -/
theorem cycles_of_stopping {l : RunLoop} {k : Nat} (h : Stopping (after s alone l k)) (more : Nat) :
    Stopping (after s alone l (k + more)) ∧
      cycles s alone l (k + more) = cycles s alone l k := by
  induction more with
  | zero => exact ⟨h, rfl⟩
  | succ more ih =>
      obtain ⟨hstopping, hcycles⟩ := ih
      have hnext := hstopping.access (access_advance s _)
      refine ⟨hnext.1, ?_⟩
      calc cycles s alone l (k + (more + 1))
          = cycles s alone l (k + more) ++
              begun (after s alone l (k + more)) (after s alone l (k + more + 1)) := rfl
        _ = cycles s alone l (k + more) := by
              rw [after_succ, hnext.2, List.append_nil]
        _ = cycles s alone l k := hcycles

/-- A run that is to quit after its first frame shows this frame and ends. -/
theorem run_of_quit {first : Emulator}
    (hpresent : (start e).emulator.present s = (first, .ok ()))
    (hquit : first.controls.quit = true) :
    ∃ fuel e', e.run s fuel = some (e', .ok 0) ∧ e'.shown = e.shown ++ [e.frame] := by
  have hopening : after s alone (start e) 1 = ⟨first, 0, .checking⟩ := by
    rw [after_succ, after_zero]
    simp only [start] at hpresent
    simp only [start, advance, hpresent]
  have hend : after s alone (start e) 2 =
      ⟨(first.syncSound s false).note (.log (.stopped 0)), 0, .finished (.ok 0)⟩ := by
    rw [after_succ, hopening]
    simp only [advance, hquit, Bool.true_or, if_true, finish]
  have hrun : e.run s 3 = some ((after s alone (start e) 2).emulator, .ok 0) :=
    runFor_of_after (by rw [hend])
  refine ⟨3, _, hrun, ?_⟩
  have hstart : Emulator.UpToSound e (start e).emulator := Emulator.upToSound_note e rfl
  have hshown := Emulator.shown_present s (start e).emulator
  rw [hpresent, hstart.shown, hstart.frame] at hshown
  rw [hend]
  exact (Emulator.upToSound_stopped s first 0).shown.trans hshown

/-! ## Coming to the limit -/

theorem limit_of_checking {k n : Nat} {now : Emulator}
    (h : after s alone (start e) k = ⟨now, n, .checking⟩) : now.limit = e.limit := by
  have hreached := reached_after s e k
  rw [h] at hreached
  generalize cycles s alone (start e) k = begun at hreached
  cases hreached with
  | checking haccount => exact haccount.driven.limit
  | ahead hpoint _ _ => cases hpoint

/-- Nothing stops or pauses the run, and nothing fails in it. -/
structure Unhindered (s : Surroundings) (e : Emulator) : Prop where
  opened : ((start e).emulator.present s).2 = .ok ()
  running : ∀ k, (after s alone (start e) k).emulator.controls.quit = false ∧
    (after s alone (start e) k).emulator.controls.paused = false
  succeeded : ∀ k, (after s alone (start e) k).point = .instruction →
    ∃ status, ((after s alone (start e) k).emulator.cycle s).2 = .ok status

theorem access_after (l : RunLoop) (k : Nat) :
    Access s (after s alone l k) (after s alone l (k + 1)) :=
  access_advance s _

namespace Unhindered

variable {k n : Nat} {now : Emulator}

/-- From a check below the limit the loop comes to an instruction. -/
theorem instruction (h : Unhindered s e)
    (hcheck : after s alone (start e) k = ⟨now, n, .checking⟩) (hroom : n < now.limit) :
    after s alone (start e) (k + 2) = ⟨now, n, .instruction⟩ := by
  have hcontrols := h.running k
  rw [hcheck] at hcontrols
  have hgate := access_after (s := s) (start e) k
  generalize hfirst : after s alone (start e) (k + 1) = first at hgate
  rw [hcheck] at hgate
  cases hgate with
  | ended hend =>
      rcases hend with hquit | ⟨-, hlimit⟩
      · exact absurd (hcontrols.1.symm.trans hquit) Bool.false_ne_true
      · exact absurd hroom (Nat.not_lt.mpr hlimit)
  | goesOn _ _ =>
      have hinstruction := access_after (s := s) (start e) (k + 1)
      generalize after s alone (start e) (k + 1 + 1) = second at hinstruction ⊢
      rw [hfirst] at hinstruction
      cases hinstruction with
      | running _ => rfl
      | paused hpaused => exact absurd (hcontrols.2.symm.trans hpaused) Bool.false_ne_true

/-- The loop comes from an instruction to the next check, and has then counted it. -/
theorem completed (h : Unhindered s e)
    (hinstruction : after s alone (start e) k = ⟨now, n, .instruction⟩) :
    ∃ k' next, after s alone (start e) k' = ⟨next, n + 1, .checking⟩ := by
  have hcycle := h.succeeded k
  rw [hinstruction] at hcycle
  obtain ⟨status, hcycle⟩ := hcycle rfl
  have haccess := access_after (s := s) (start e) k
  generalize hlooking : after s alone (start e) (k + 1) = looking at haccess
  rw [hinstruction] at haccess
  cases haccess with
  | failed hinstruct =>
      rw [Emulator.cycle_of_failed hinstruct] at hcycle
      cases hcycle
  | @carriedOut _ found _ _ hinstruct =>
      have haccess := access_after (s := s) (start e) (k + 1)
      generalize hdrawing : after s alone (start e) (k + 1 + 1) = drawing at haccess
      rw [hlooking] at haccess
      cases haccess with
      | noFrame _ => exact ⟨k + 2, found, hdrawing⟩
      | frameDue hneeds =>
          have haccess := access_after (s := s) (start e) (k + 2)
          generalize hchecking : after s alone (start e) (k + 2 + 1) = checking at haccess
          rw [hdrawing] at haccess
          cases haccess with
          | drawn _ => exact ⟨k + 3, _, hchecking⟩
          | drawingFailed hpresent =>
              rw [Emulator.cycle_of_drawingFailed hinstruct hneeds hpresent] at hcycle
              cases hcycle

/-- The loop comes to a check with every count up to the limit. -/
theorem counts (h : Unhindered s e) (hn : n ≤ e.limit) :
    ∃ k now, after s alone (start e) k = ⟨now, n, .checking⟩ := by
  induction n with
  | zero =>
      have haccess : Access s ⟨(start e).emulator, 0, .opening⟩ (after s alone (start e) 1) :=
        access_after (start e) 0
      generalize hchecking : after s alone (start e) 1 = checking at haccess
      cases haccess with
      | opened _ => exact ⟨1, _, hchecking⟩
      | openingFailed hpresent =>
          have hopened := h.opened
          rw [hpresent] at hopened
          cases hopened
  | succ n ih =>
      obtain ⟨k, now, hcheck⟩ := ih (Nat.le_of_succ_le hn)
      have hlimit := limit_of_checking hcheck
      exact h.completed (h.instruction hcheck (by omega))

/-- The run comes to its limit. -/
theorem run (h : Unhindered s e) (hlimit : 0 < e.limit) :
    ∃ fuel e', e.run s fuel = some (e', .ok e.limit) := by
  obtain ⟨k, now, hcheck⟩ := h.counts (Nat.le_refl e.limit)
  have hsame := limit_of_checking hcheck
  have haccess := access_after (s := s) (start e) k
  generalize hend : after s alone (start e) (k + 1) = last at haccess
  rw [hcheck] at haccess
  cases haccess with
  | ended _ => exact ⟨k + 2, _, runFor_of_after (k := k + 1) (by rw [hend])⟩
  | goesOn _ hroom =>
      rw [hsame] at hroom
      exact absurd (hroom hlimit) (Nat.lt_irrefl _)

end Unhindered

theorem exists_of_isOk {α : Type} {x : Except Fault α} (h : x.isOk = true) : ∃ a, x = .ok a := by
  cases x with
  | error fault => cases h
  | ok a => exact ⟨a, rfl⟩

/-- The loop is neither to quit nor paused, and not about to fail. -/
def isCalm (s : Surroundings) (l : RunLoop) : Bool :=
  !l.emulator.controls.quit && !l.emulator.controls.paused &&
    match l.point with
    | .opening => (l.emulator.present s).2.isOk
    | .instruction => (l.emulator.cycle s).2.isOk
    | _ => true

/-- A run is not hindered if its loop is calm until it is at its end. -/
theorem unhindered_of_isCalm {fuel : Nat} (hend : (e.run s fuel).isSome = true)
    (hcalm : ∀ k < fuel + 1, isCalm s (after s alone (start e) k) = true) : Unhindered s e := by
  obtain ⟨⟨e', result⟩, hrun⟩ := Option.isSome_iff_exists.mp hend
  have hall : ∀ k, isCalm s (after s alone (start e) k) = true := by
    intro k
    rcases Nat.lt_or_ge k (fuel + 1) with hk | hk
    · exact hcalm k hk
    · rw [after_eq_of_finished (after_of_runFor hrun).2 (Nat.le_of_succ_le hk)]
      exact hcalm fuel (Nat.lt_succ_self fuel)
  simp only [isCalm, Bool.and_eq_true, Bool.not_eq_true'] at hall
  refine ⟨?_, fun k => (hall k).1, ?_⟩
  · obtain ⟨done, hopened⟩ := exists_of_isOk (hall 0).2
    exact hopened
  · intro k hpoint
    have hcycle := (hall k).2
    rw [hpoint] at hcycle
    exact exists_of_isOk hcycle

/-- What a run answers. If it answers with a number, it has run as many instructions, each in a
cycle that went well; the number keeps to the limit, and the run was told to quit or has come to
the limit. If it answers with a fault, this is the fault of the first frame, and no instruction was
run, or of the last cycle, after which nothing else was done to the machine. No cycle begins once
the loop has seen that it is to quit, so a run that is to quit after its first frame shows this
frame alone. A run that nothing stops, pauses or fails comes to its limit, and has then made as many
steps of the machine, at consecutive readings of the clock; nothing else has happened to the machine
unless frames changed keys. -/
theorem answer_of_run (s : Surroundings) (e : Emulator) :
    (∀ fuel e' n, e.run s fuel = some (e', .ok n) →
      Account s e (cycles s alone (start e) fuel) e' ∧
      (cycles s alone (start e) fuel).length = n ∧
      (e'.controls.quit = true ∨ 0 < e.limit ∧ n = e.limit)) ∧
    (∀ fuel e' fault, e.run s fuel = some (e', .error fault) →
      Emulator.Driven s e (cycles s alone (start e) fuel).length e' ∧
      (cycles s alone (start e) fuel = [] ∧
          ((start e).emulator.present s).2 = .error fault ∨
        ∃ before last, cycles s alone (start e) fuel = before ++ [last] ∧
          (∀ c ∈ before, c.Succeeds s) ∧ (last.emulator.cycle s).2 = .error fault ∧
          e'.machine = (last.emulator.cycle s).1.machine)) ∧
    (∀ k more, (after s alone (start e) k).point = .checking →
      (after s alone (start e) k).emulator.controls.quit = true →
      cycles s alone (start e) (k + more) = cycles s alone (start e) k) ∧
    (∀ first, (start e).emulator.present s = (first, .ok ()) → first.controls.quit = true →
      ∃ fuel e', e.run s fuel = some (e', .ok 0) ∧ e'.shown = e.shown ++ [e.frame]) ∧
    (Unhindered s e → 0 < e.limit →
      ∃ fuel e', e.run s fuel = some (e', .ok e.limit) ∧
        Stepped s e.instructions e.limit e.machine e'.machine ∧
        ((∀ number key down, .key key down ∉ s.screen number) →
          e'.machine = e.machine.afterAll (steps s e.instructions e.limit))) := by
  refine ⟨?_, ?_, ?_, ?_, ?_⟩
  · intro fuel e' n hrun
    exact account_of_run_ok hrun
  · intro fuel e' fault hrun
    exact fault_of_run_error hrun
  · intro k more hpoint hquit
    exact (cycles_of_stopping (.inl ⟨hpoint, hquit⟩) more).2
  · intro first hpresent hquit
    exact run_of_quit hpresent hquit
  · intro hunhindered hlimit
    obtain ⟨fuel, e', hrun⟩ := hunhindered.run hlimit
    obtain ⟨haccount, hlength, -⟩ := account_of_run_ok hrun
    have hstepped := haccount.driven.machine
    rw [hlength] at hstepped
    exact ⟨fuel, e', hrun, hstepped, hstepped.eq_afterAll⟩

/-- An emulator that is to stop after two instructions, a clearing of the screen and a jump. -/
def twoSteps : Emulator :=
  .start (Machine.holding [0x00, 0xE0, 0x12, 0x00]) { Config.ofRom "" with cycles := 2 }

/-- Surroundings in which nothing happens but that time goes on. -/
def ticking : Surroundings := { Surroundings.calm 0 with clock := fun i => 2000000 * i }

theorem answer_of_run_twoSteps :
    (Unhindered ticking twoSteps ∧ 0 < twoSteps.limit) ∧
    ∃ fuel e', twoSteps.run ticking fuel = some (e', .ok 2) ∧
      e'.machine = twoSteps.machine.afterAll [.step 0, .step 2000000] := by
  have hrun : (twoSteps.run ticking 12).isSome = true ∧
      ∀ k < 13, isCalm ticking (after ticking alone (start twoSteps) k) = true := by
    decide +kernel
  have hunhindered := unhindered_of_isCalm hrun.1 hrun.2
  have hlimit : 0 < twoSteps.limit := by decide
  refine ⟨⟨hunhindered, hlimit⟩, ?_⟩
  obtain ⟨fuel, e', hrun, -, hmachine⟩ :=
    (answer_of_run ticking twoSteps).2.2.2.2 hunhindered hlimit
  refine ⟨fuel, e', hrun, hmachine ?_⟩
  intro number key down hkey
  cases hkey

end RunLoop

end Chip8
