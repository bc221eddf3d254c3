import Mathlib.Data.List.FinRange
import Chip8.Proofs.Stepping

/-!
# Waiting for a key

An instruction that waits for a key takes the counter back as long as none is held, so that the next
step finds it again. All that such a step leaves behind is the update of the timers. `Waiting` is a
history of such steps, with the keys pressed and released in between as they may be; whatever its
length, the machine it leads to is the one it started from but for its timers and keys. The first step
that sees a held key takes the lowest one.
-/

namespace Chip8

namespace Keypad

theorem pairwise_heldKeys (k : Keypad) : k.heldKeys.Pairwise (· < ·) :=
  (List.pairwise_lt_finRange 16).filter k.isHeld

/-- The lowest key is held, and no key below it is. -/
theorem lowest_of_first? {k : Keypad} {key : Key} (h : k.first? = some key) :
    k.isHeld key = true ∧ ∀ other, k.isHeld other = true → key ≤ other := by
  obtain ⟨rest, hkeys⟩ := List.head?_eq_some_iff.mp h
  have hsorted := k.pairwise_heldKeys
  rw [hkeys] at hsorted
  constructor
  · apply mem_heldKeys.mp
    rw [hkeys]
    exact List.mem_cons_self
  · intro other hother
    have hmem := mem_heldKeys.mpr hother
    rw [hkeys] at hmem
    rcases List.mem_cons.mp hmem with rfl | hrest
    · exact Nat.le_refl _
    · exact Nat.le_of_lt ((List.pairwise_cons.mp hsorted).1 other hrest)

end Keypad

/-- The timers after updates at the given instants, in order. -/
def Timers.updateAll (t : Timers) (instants : List Instant) : Timers :=
  instants.foldl (fun t now => (t.update now).1) t

/-- A history that steps at the given instants while no key is held. Before and after a step keys may be
pressed and released; the first keypad is the one at the start, the second one that at the end. -/
inductive Waiting : Keypad → List Operation → List Instant → Keypad → Prop
  | nil (keys : Keypad) : Waiting keys [] [] keys
  | step {ops : List Operation} {instants : List Instant} {last : Keypad} (now : Instant)
      (h : Waiting .released ops instants last) :
      Waiting .released (.step now :: ops) (now :: instants) last
  | key {keys last : Keypad} {ops : List Operation} {instants : List Instant} (key : Key)
      (down : Bool) (h : Waiting (keys.set key down) ops instants last) :
      Waiting keys (.key key down :: ops) instants last
  | releaseKeys {keys last : Keypad} {ops : List Operation} {instants : List Instant}
      (h : Waiting .released ops instants last) : Waiting keys (.releaseKeys :: ops) instants last

/-- Up to each of its steps a history waits, and then no key is held. -/
theorem Waiting.before_step {keys last : Keypad} {ops : List Operation} {instants : List Instant}
    (h : Waiting keys ops instants last) {done : List Operation} {now : Instant}
    (hdone : done ++ [.step now] <+: ops) : ∃ earlier, Waiting keys done earlier .released := by
  induction h generalizing done with
  | nil => exact absurd (List.prefix_nil.mp hdone) (by simp)
  | step time h ih =>
      cases done with
      | nil => exact ⟨[], .nil .released⟩
      | cons op done =>
          obtain ⟨rfl, hrest⟩ := List.cons_prefix_cons.mp hdone
          obtain ⟨earlier, hearlier⟩ := ih hrest
          exact ⟨time :: earlier, .step time hearlier⟩
  | key key down h ih =>
      cases done with
      | nil => cases (List.cons_prefix_cons.mp hdone).1
      | cons op done =>
          obtain ⟨rfl, hrest⟩ := List.cons_prefix_cons.mp hdone
          obtain ⟨earlier, hearlier⟩ := ih hrest
          exact ⟨earlier, .key key down hearlier⟩
  | releaseKeys h ih =>
      cases done with
      | nil => cases (List.cons_prefix_cons.mp hdone).1
      | cons op done =>
          obtain ⟨rfl, hrest⟩ := List.cons_prefix_cons.mp hdone
          obtain ⟨earlier, hearlier⟩ := ih hrest
          exact ⟨earlier, .releaseKeys hearlier⟩

namespace Machine

variable {m : Machine} {x : Nibble}

/-- The word of an instruction stays where it is, whatever becomes of the keys and the timers. -/
theorem Finds.kept {ins : Instruction} (h : m.Finds ins) (keys : Keypad) (timers : Timers) :
    { m with keys := keys, timers := timers }.Finds ins :=
  h

/-- A step that finds no key held leaves the timers updated and everything else as it was. -/
theorem step_of_noKey (h : m.Finds (.awaitKey x)) (hkeys : m.keys = .released) (now : Instant) :
    (m.step now).machine = { m with timers := (m.timers.update now).1 } ∧
      ∃ status, (m.step now).answer = .ok status ∧ status.redraw = false := by
  have hfirst : m.advance.keys.first? = none := Keypad.first?_eq_none_iff.mpr hkeys
  have hexecute : m.advance.execute m.pc (.awaitKey x) = ⟨m, .ok false, []⟩ := by
    have hback : m.advance.pc - 2 = m.pc := BitVec.add_sub_cancel m.pc 2
    simp only [execute, executeAwaitKey, hfirst, done, hback]
    rfl
  obtain ⟨hpc, hword⟩ := h.decode?_fetched
  rw [step_of_decode? hpc hword, hexecute]
  exact ⟨rfl, _, rfl, rfl⟩

/-- A step that finds a key held takes the lowest one and goes on behind the instruction. -/
theorem step_of_key (h : m.Finds (.awaitKey x)) {key : Key} (hkey : m.keys.first? = some key)
    (now : Instant) :
    (m.step now).machine = { m.setRegister x (BitVec.ofNat 8 key.val) with
        pc := m.pc + 2, timers := (m.timers.update now).1 } ∧
      ∃ status, (m.step now).answer = .ok status := by
  have hkey : m.advance.keys.first? = some key := hkey
  obtain ⟨hpc, hword⟩ := h.decode?_fetched
  have hexecute : m.advance.execute m.pc (.awaitKey x) =
      done (m.advance.setRegister x (BitVec.ofNat 8 key.val)) [.keyTaken m.pc key] := by
    simp only [execute, executeAwaitKey, hkey]
  rw [step_of_decode? hpc hword, hexecute]
  exact ⟨rfl, _, rfl⟩

/-- Waiting changes the timers, by an update for each step, and nothing else. -/
theorem afterAll_of_waiting (h : m.Finds (.awaitKey x)) {ops : List Operation}
    {instants : List Instant} {last : Keypad} (hwaiting : Waiting m.keys ops instants last) :
    m.afterAll ops = { m with keys := last, timers := m.timers.updateAll instants } := by
  generalize hkeys : m.keys = keys at hwaiting
  induction hwaiting generalizing m with
  | nil keys => rw [← hkeys]; rfl
  | @step ops instants last now hrest ih =>
      have hstep : (m.perform (.step now)).machine = { m with timers := (m.timers.update now).1 } :=
        (step_of_noKey h hkeys now).1
      rw [afterAll_cons, hstep, ih (h.kept m.keys (m.timers.update now).1) hkeys]
      rfl
  | key key down hrest ih =>
      have hchange : (m.perform (.key key down)).machine =
          { m with keys := m.keys.set key down } := rfl
      rw [afterAll_cons, hchange,
        ih (h.kept (m.keys.set key down) m.timers) (congrArg (·.set key down) hkeys)]
  | releaseKeys hrest ih =>
      have hchange : (m.perform .releaseKeys).machine = { m with keys := .released } := rfl
      rw [afterAll_cons, hchange, ih (h.kept .released m.timers) rfl]

/-- What the end of a wait comes to: the lowest of the held keys is in the register, the counter stands
behind the instruction, and the other registers are as they were. -/
structure Took (m : Machine) (x : Nibble) (keys : Keypad) (after : Machine) : Prop where
  lowest : ∃ key, keys.isHeld key = true ∧ (∀ other, keys.isHeld other = true → key ≤ other) ∧
    (after.register x).toNat = key.val
  pc : after.pc.toNat = m.pc.toNat + 2
  others : ∀ r, r ≠ x → after.register r = m.register r

theorem took_step (h : m.Finds (.awaitKey x)) (hheld : m.keys ≠ .released) (now : Instant) :
    m.Took x m.keys (m.step now).machine ∧ ∃ status, (m.step now).answer = .ok status := by
  obtain ⟨key, hkey⟩ := Option.ne_none_iff_exists'.mp (mt Keypad.first?_eq_none_iff.mp hheld)
  obtain ⟨hmachine, hanswer⟩ := step_of_key h hkey now
  obtain ⟨hhit, hleast⟩ := Keypad.lowest_of_first? hkey
  refine ⟨?_, hanswer⟩
  rw [hmachine]
  refine ⟨⟨key, hhit, hleast, ?_⟩, toNat_pc_advance h.decode?_fetched.1, ?_⟩
  · change ((m.setRegister x (BitVec.ofNat 8 key.val)).register x).toNat = key.val
    have hsmall : key.val < 2 ^ 8 := Nat.lt_trans key.isLt (by decide)
    rw [register_setRegister_self, BitVec.toNat_ofNat, Nat.mod_eq_of_lt hsmall]
  · intro r hr
    exact (register_setRegister m x r _).trans (if_neg hr.symm)

/-- However many steps are taken at whatever instants while no key is held, each of them succeeds and
asks for no redraw, and after them the machine is as before, the counter back at the instruction, but for
the keys and for one update of the timers at each of the instants. The first step that finds keys held
takes the lowest of them into the register and goes on behind the instruction. -/
theorem wait_until_key_held (h : m.Finds (.awaitKey x)) {ops : List Operation}
    {instants : List Instant} {last : Keypad} (hwaiting : Waiting m.keys ops instants last) :
    (∀ done now, done ++ [.step now] <+: ops →
      ∃ status, ((m.afterAll done).step now).answer = .ok status ∧ status.redraw = false) ∧
    m.afterAll ops = { m with keys := last, timers := m.timers.updateAll instants } ∧
    (last ≠ .released → ∀ now, m.Took x last ((m.afterAll ops).step now).machine ∧
      ∃ status, ((m.afterAll ops).step now).answer = .ok status) := by
  refine ⟨?_, afterAll_of_waiting h hwaiting, ?_⟩
  · intro done now hdone
    obtain ⟨earlier, hearlier⟩ := hwaiting.before_step hdone
    rw [afterAll_of_waiting h hearlier]
    exact (step_of_noKey (h.kept .released (m.timers.updateAll earlier)) rfl now).2
  · intro hheld now
    rw [afterAll_of_waiting h hwaiting]
    obtain ⟨htook, hanswer⟩ := took_step (h.kept last (m.timers.updateAll instants)) hheld now
    exact ⟨⟨htook.lowest, htook.pc, htook.others⟩, hanswer⟩

/-- Two steps with a key pressed and released in between, and then two keys pressed. -/
theorem wait_until_key_held_twoSteps :
    let m := holding [0xF4, 0x0A]
    let ops : List Operation :=
      [.step 5, .key 3 true, .releaseKeys, .step 9, .key 0xC true, .key 7 true]
    let last := (Keypad.released.set 0xC true).set 7 true
    (m.Finds (.awaitKey 4) ∧ Waiting m.keys ops [5, 9] last ∧ last ≠ .released) ∧
      (m.afterAll ops).pc = m.pc ∧
      (((m.afterAll ops).step 12).machine.register 4).toNat = 7 := by
  intro m ops last
  have hword : m.pc.toNat < 0xFFE ∧ Instruction.decode? m.fetched = some (.awaitKey 4) := by
    decide +kernel
  have hfinds : m.Finds (.awaitKey 4) := finds_of_decode? hword.1 hword.2
  have hwaiting : Waiting m.keys ops [5, 9] last :=
    .step 5 (.key 3 true (.releaseKeys (.step 9 (.key 0xC true (.key 7 true (.nil last))))))
  have hheld : last ≠ .released := by decide
  have hleast : last.isHeld 7 = true ∧
      ∀ key, last.isHeld key = true → key ≤ 7 → key.val = 7 := by decide
  obtain ⟨-, hmachine, hkey⟩ := wait_until_key_held hfinds hwaiting
  obtain ⟨key, hhit, hlow, hregister⟩ := (hkey hheld 12).1.lowest
  refine ⟨⟨hfinds, hwaiting, hheld⟩, by rw [hmachine], ?_⟩
  rw [hregister]
  exact hleast.2 key hhit (hlow 7 hleast.1)

end Machine

end Chip8
