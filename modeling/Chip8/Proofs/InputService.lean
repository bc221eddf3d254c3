import Chip8.Proofs.Quitting

/-!
# What the input thread has done at its end

Left to itself, the input thread goes through its script up to the first reading that ends it, which
is the user's wish to quit or a failure. What it has then done is told by the events among those
readings (`ServedUpTo`). The function that serves a whole script and the thread that is taken apart
at its accesses come to the same: every part of the loop is a run of accesses to a place from which
the next one goes on.
-/

namespace Chip8

namespace Reading

/-- The event that the input brings, if it brings one. -/
def event? : Reading → Option InputEvent
  | .ok event => event
  | .error _ => none

/-- The thread ends with the reading: the user quits, or the input fails. -/
def ends : Reading → Bool
  | .ok event => event == some .quit
  | .error _ => true

/-- What is reported about a reading that fails. -/
def report : Reading → List LogLine
  | .ok _ => []
  | .error reason => [.inputFailed reason]

theorem filterMap_event?_cons (event : Option InputEvent) (readings : List Reading) :
    List.filterMap event? (.ok event :: readings) =
      event.toList ++ readings.filterMap event? := by
  cases event <;> rfl

end Reading

namespace InputThread

/-- The lines about a number of pauses in order: each of them stops the machine, or lets it run
again if it is stopped. -/
def pauseLines (paused : Bool) : (count : Nat) → List LogLine
  | 0 => []
  | count + 1 => (if paused then .resumed else .paused) :: pauseLines (!paused) count

/-- The thread has served some readings, which bring the given events, and the last of them, the
given one, ends it. -/
structure ServedUpTo (s : Shared) (events : List InputEvent) (last : Reading) (served : Served) :
    Prop where
  result : served.result = some (last.map fun _ => ())
  keys : served.shared.keys = Keypad.released
  quit : served.shared.controls.quit = true
  paused : served.shared.controls.paused =
    (s.controls.paused ^^ decide (Odd (events.count .pause)))
  stepOnce : served.shared.controls.stepOnce = true ↔
    s.controls.stepOnce = true ∨ .step ∈ events
  log : served.log = pauseLines s.controls.paused (events.count .pause) ++ last.report

/-! ## The whole of it -/

variable {clock : Nat → Instant} {p : Pump} {s : Shared}

theorem serve_of_quit (h : s.controls.quit = true) (script : List Reading) :
    serve clock p s script = ⟨{ s with keys := Keypad.released }, script, some (.ok ()), []⟩ := by
  unfold serve
  rw [if_pos h]

theorem serve_nil (h : s.controls.quit = false) :
    serve clock p s [] = ⟨s, [], none, []⟩ := by
  unfold serve
  rw [if_neg (Bool.eq_false_iff.mp h)]

theorem serve_error (h : s.controls.quit = false) (reason : String) (rest : List Reading) :
    serve clock p s (.error reason :: rest) =
      ⟨⟨Keypad.released, { s.controls with quit := true }⟩, rest, some (.error reason),
        [.inputFailed reason]⟩ := by
  rw [serve, if_neg (Bool.eq_false_iff.mp h)]
  simp only [Pump.turn_error, List.nil_append]

theorem serve_ok (h : s.controls.quit = false) {event : Option InputEvent} {rest : List Reading}
    {turned : Pumped} (hturned : p.turn (clock rest.length) (.ok event) s = turned) :
    serve clock p s (.ok event :: rest) =
      { serve clock turned.pump turned.shared rest with
        log := turned.log ++ (serve clock turned.pump turned.shared rest).log } := by
  have hresult := p.turn_result (clock rest.length) s event
  rw [serve, if_neg (Bool.eq_false_iff.mp h)]
  rw [hturned] at hresult ⊢
  obtain ⟨pump, shared, result, log⟩ := turned
  obtain rfl : result = .ok () := hresult
  rfl

/-- A turn whose input does not fail reports a pause and nothing else. -/
theorem log_turn_ok (p : Pump) (now : Instant) (s : Shared) (event : Option InputEvent) :
    (p.turn now (.ok event) s).log =
      pauseLines s.controls.paused (event.toList.count .pause) := by
  rcases event with - | (_ | _ | _ | _) <;> simp [Pump.turn, Pump.take, pauseLines]

theorem controls_turn_ok (p : Pump) (now : Instant) (s : Shared) (event : Option InputEvent) :
    (p.turn now (.ok event) s).shared.controls =
      event.elim s.controls fun event => event.steer s.controls := by
  have hturn := p.controls_turn s ⟨now, .ok event⟩
  simpa only [PumpCall.event?] using hturn

theorem quit_turn_ok (p : Pump) (now : Instant) (s : Shared) {event : Option InputEvent}
    (h : event ≠ some .quit) :
    (p.turn now (.ok event) s).shared.controls.quit = s.controls.quit := by
  rw [controls_turn_ok]
  cases event with
  | none => rfl
  | some event =>
      cases event with
      | quit => exact absurd rfl h
      | key _ | pause | step => rfl

namespace ServedUpTo

variable {events : List InputEvent} {last : Reading} {served : Served}

/-- A reading that does not end the thread comes before the others. -/
theorem cons {now : Instant} {event : Option InputEvent} {turned : Pumped}
    (hturned : p.turn now (.ok event) s = turned)
    (h : ServedUpTo turned.shared events last served) :
    ServedUpTo s (event.toList ++ events) last { served with log := turned.log ++ served.log } := by
  subst hturned
  obtain ⟨hresult, hkeys, hquit, hpaused, hstep, hlog⟩ := h
  rw [controls_turn_ok] at hpaused hstep hlog
  refine ⟨hresult, hkeys, hquit, ?_, ?_, ?_⟩
  · rw [hpaused]
    rcases event with - | (_ | _ | _ | _)
    case none => rfl
    case some.pause =>
      simp only [Option.elim_some, InputEvent.steer, Option.toList_some, List.singleton_append,
        List.count_cons_self, Nat.odd_add_one, decide_not, Bool.xor_not, Bool.not_xor]
    all_goals simp [InputEvent.steer]
  · rw [hstep]
    rcases event with - | (_ | _ | _ | _) <;> simp [InputEvent.steer]
  · simp only [hlog, log_turn_ok]
    rcases event with - | (_ | _ | _ | _) <;> simp [InputEvent.steer, pauseLines]

theorem failed (h : s.controls.quit = false) (reason : String) (rest : List Reading) :
    ServedUpTo s [] (.error reason) (serve clock p s (.error reason :: rest)) := by
  rw [serve_error h]
  refine ⟨rfl, rfl, rfl, ?_, ?_, rfl⟩ <;> simp

theorem quits (h : s.controls.quit = false) (rest : List Reading) :
    ServedUpTo s [.quit] (.ok (some .quit)) (serve clock p s (.ok (some .quit) :: rest)) := by
  have hcontrols := controls_turn_ok p (clock rest.length) s (some .quit)
  have hlog := log_turn_ok p (clock rest.length) s (some .quit)
  generalize hturned : p.turn (clock rest.length) (.ok (some .quit)) s = turned at hcontrols hlog
  have hquit : turned.shared.controls.quit = true := congrArg Controls.quit hcontrols
  rw [serve_ok h hturned, serve_of_quit hquit]
  refine ⟨rfl, rfl, hquit, ?_, ?_, ?_⟩
  · simp [hcontrols, InputEvent.steer]
  · simp [hcontrols, InputEvent.steer]
  · rw [hlog]
    rfl

end ServedUpTo

/-- The thread serves its script up to the first reading that ends it. -/
theorem exists_servedUpTo (clock : Nat → Instant) (p : Pump) {script : List Reading}
    (hquit : s.controls.quit = false) (h : ∃ reading ∈ script, reading.ends = true) :
    ∃ before last, script = before ++ last :: (serve clock p s script).left ∧
      (∀ reading ∈ before, reading.ends = false) ∧ last.ends = true ∧
      ServedUpTo s ((before ++ [last]).filterMap Reading.event?) last (serve clock p s script) := by
  induction script generalizing p s with
  | nil => exact absurd h.choose_spec.1 List.not_mem_nil
  | cons first rest ih =>
      cases first with
      | error reason =>
          refine ⟨[], .error reason, ?_, by simp, rfl, .failed hquit reason rest⟩
          rw [serve_error hquit]
          rfl
      | ok event =>
          by_cases hlast : event = some .quit
          · subst hlast
            have hcontrols := controls_turn_ok p (clock rest.length) s (some .quit)
            refine ⟨[], .ok (some .quit), ?_, by simp, rfl, .quits hquit rest⟩
            rw [serve_ok hquit rfl, serve_of_quit (congrArg Controls.quit hcontrols)]
            rfl
          · have hfirst : Reading.ends (.ok event) = false := beq_eq_false_iff_ne.mpr hlast
            have hrest : ∃ reading ∈ rest, reading.ends = true := by
              obtain ⟨reading, hmem, hends⟩ := h
              rcases List.mem_cons.mp hmem with rfl | hmem
              · exact absurd (hfirst.symm.trans hends) Bool.false_ne_true
              · exact ⟨reading, hmem, hends⟩
            have hgoesOn := (quit_turn_ok p (clock rest.length) s hlast).trans hquit
            generalize hturned : p.turn (clock rest.length) (.ok event) s = turned at hgoesOn
            obtain ⟨before, last, hsplit, hbefore, hends, hserved⟩ := ih turned.pump hgoesOn hrest
            rw [serve_ok hquit hturned]
            refine ⟨.ok event :: before, last, congrArg (List.cons _) hsplit, ?_, hends, ?_⟩
            · intro reading hmem
              rcases List.mem_cons.mp hmem with rfl | hmem
              · exact hfirst
              · exact hbefore reading hmem
            · rw [List.cons_append, Reading.filterMap_event?_cons]
              exact hserved.cons hturned

/-! ## Access by access -/

/-- The thread, what it shares, the readings that are still to come, and the log. -/
structure Service where
  thread : InputThread
  shared : Shared
  left : List Reading
  log : List LogLine

/-- One access, with no one else to write to what the thread shares. The clock tells the time for
the number of readings behind the next one. -/
def access (clock : Nat → Instant) (v : Service) : Service :=
  let (reading, rest) := nextReading v.left
  let (thread, shared, lines) := v.thread.advance (clock rest.length) reading v.shared
  ⟨thread, shared, if takesReading v.thread.point then rest else v.left, v.log ++ lines⟩

section

variable {result : Except String Unit} {left : List Reading} {log : List LogLine}

theorem access_told (h : s.controls.quit = true) :
    access clock ⟨⟨p, .checking, result⟩, s, left, log⟩ =
      ⟨⟨p, .clearing (List.finRange 16), result⟩, s, left, log⟩ := by
  simp only [access, advance, takesReading, h, if_true, Bool.false_eq_true, if_false,
    List.append_nil]

theorem access_goesOn (h : s.controls.quit = false) (reading : Reading) (rest : List Reading) :
    access clock ⟨⟨p, .checking, result⟩, s, reading :: rest, log⟩ =
      ⟨⟨p, .reading (clock rest.length), result⟩, s, reading :: rest, log⟩ := by
  simp only [access, advance, takesReading, nextReading, h, Bool.false_eq_true, if_false,
    List.append_nil]

theorem access_failed (since : Instant) (reason : String) (rest : List Reading) :
    access clock ⟨⟨p, .reading since, result⟩, s, .error reason :: rest, log⟩ =
      ⟨⟨p, .failing, .error reason⟩, s, rest, log ++ [.inputFailed reason]⟩ := rfl

/-- A reading that does not fail is handled, and the keys that are due are still to be released. -/
theorem access_handled (since : Instant) (event : Option InputEvent) (rest : List Reading) :
    access clock ⟨⟨p, .reading since, result⟩, s, .ok event :: rest, log⟩ =
      ⟨⟨(p.handle since s event).1, .releasing since (List.finRange 16), result⟩,
        (p.handle since s event).2, rest, log ++ (p.turn since (.ok event) s).log⟩ := by
  cases event <;>
    simp only [access, advance, takesReading, nextReading, Pump.handle, Pump.turn, if_true]

theorem access_asked :
    access clock ⟨⟨p, .failing, result⟩, s, left, log⟩ =
      ⟨⟨p, .checking, result⟩, { s with controls := { s.controls with quit := true } }, left,
        log⟩ := by
  simp only [access, advance, takesReading, Bool.false_eq_true, if_false, List.append_nil]

theorem access_looked (since : Instant) (key : Key) (rest : List Key) :
    access clock ⟨⟨p, .releasing since (key :: rest), result⟩, s, left, log⟩ =
      ⟨⟨(Pump.expire since (p, s) key).1, .releasing since rest, result⟩,
        (Pump.expire since (p, s) key).2, left, log⟩ := by
  simp only [access, advance, takesReading, Bool.false_eq_true, if_false, List.append_nil]

theorem access_lookedAll (since : Instant) :
    access clock ⟨⟨p, .releasing since [], result⟩, s, left, log⟩ =
      ⟨⟨p, .checking, result⟩, s, left, log⟩ := by
  simp only [access, advance, takesReading, Bool.false_eq_true, if_false, List.append_nil]

theorem access_released (key : Key) (rest : List Key) :
    access clock ⟨⟨p, .clearing (key :: rest), result⟩, s, left, log⟩ =
      ⟨⟨p, .clearing rest, result⟩, { s with keys := s.keys.set key false }, left, log⟩ := by
  simp only [access, advance, takesReading, Bool.false_eq_true, if_false, List.append_nil]

theorem access_releasedAll :
    access clock ⟨⟨p, .clearing [], result⟩, s, left, log⟩ =
      ⟨⟨p, .finished, result⟩, s, left, log⟩ := by
  simp only [access, advance, takesReading, Bool.false_eq_true, if_false, List.append_nil]

end

/-- Some number of accesses leads from one to the other. -/
def Reaches (clock : Nat → Instant) (v w : Service) : Prop := ∃ n, (access clock)^[n] v = w

namespace Reaches

theorem refl (v : Service) : Reaches clock v v := ⟨0, rfl⟩

theorem head {u v w : Service} (huv : access clock u = v) (hvw : Reaches clock v w) :
    Reaches clock u w := by
  obtain ⟨n, hn⟩ := hvw
  exact ⟨n + 1, by rw [Function.iterate_succ_apply, huv, hn]⟩

theorem trans {u v w : Service} (huv : Reaches clock u v) (hvw : Reaches clock v w) :
    Reaches clock u w := by
  obtain ⟨n, rfl⟩ := huv
  obtain ⟨k, rfl⟩ := hvw
  exact ⟨k + n, Function.iterate_add_apply ..⟩

variable {result : Except String Unit} {left : List Reading} {log : List LogLine}

/-- The keys whose time is up are released one after the other. -/
theorem released (since : Instant) (keys : List Key) {pump : Pump} {shared : Shared}
    (h : keys.foldl (Pump.expire since) (p, s) = (pump, shared)) :
    Reaches clock ⟨⟨p, .releasing since keys, result⟩, s, left, log⟩
      ⟨⟨pump, .checking, result⟩, shared, left, log⟩ := by
  induction keys generalizing p s with
  | nil =>
      obtain ⟨rfl, rfl⟩ := Prod.mk.inj h
      exact head (access_lookedAll since) (refl _)
  | cons key rest ih => exact head (access_looked since key rest) (ih h)

/-- In the end all keys are released. -/
theorem cleared {rest : List Key} (h : ∀ key, key ∉ rest → s.keys.isHeld key = false) :
    Reaches clock ⟨⟨p, .clearing rest, result⟩, s, left, log⟩
      ⟨⟨p, .finished, result⟩, { s with keys := Keypad.released }, left, log⟩ := by
  induction rest generalizing s with
  | nil =>
      have hkeys : s.keys = Keypad.released := Keypad.ext_isHeld fun key => by
        rw [h key List.not_mem_nil, Keypad.isHeld_released]
      rw [← hkeys]
      exact head access_releasedAll (refl _)
  | cons key rest ih =>
      refine head (access_released key rest) (ih (s := { s with keys := s.keys.set key false }) ?_)
      intro other hother
      rw [Keypad.isHeld_set]
      split
      · rfl
      · rename_i hne
        exact h other fun hmem => (List.mem_cons.mp hmem).elim (Ne.symm hne) hother

theorem ended (h : s.controls.quit = true) :
    Reaches clock ⟨⟨p, .checking, result⟩, s, left, log⟩
      ⟨⟨p, .finished, result⟩, { s with keys := Keypad.released }, left, log⟩ :=
  head (access_told h) (cleared fun key hkey => absurd (List.mem_finRange key) hkey)

/-- A reading that does not fail leads to the next check. -/
theorem turned (h : s.controls.quit = false) {event : Option InputEvent} {rest : List Reading}
    {turned : Pumped} (hturned : p.turn (clock rest.length) (.ok event) s = turned) :
    Reaches clock ⟨⟨p, .checking, result⟩, s, .ok event :: rest, log⟩
      ⟨⟨turned.pump, .checking, result⟩, turned.shared, rest, log ++ turned.log⟩ := by
  have hreleased := p.turn_ok (clock rest.length) s event
  refine head (access_goesOn h (.ok event) rest) ?_
  refine head (access_handled (clock rest.length) event rest) ?_
  rw [hturned] at hreleased ⊢
  exact released (clock rest.length) (List.finRange 16) hreleased.symm

/-- A reading that fails leads to the end. -/
theorem failed (h : s.controls.quit = false) (reason : String) (rest : List Reading) :
    Reaches clock ⟨⟨p, .checking, result⟩, s, .error reason :: rest, log⟩
      ⟨⟨p, .finished, .error reason⟩, ⟨Keypad.released, { s.controls with quit := true }⟩, rest,
        log ++ [.inputFailed reason]⟩ := by
  refine head (access_goesOn h (.error reason) rest) ?_
  refine head (access_failed (clock rest.length) reason rest) (head access_asked ?_)
  exact ended (s := { s with controls := { s.controls with quit := true } }) rfl

end Reaches

/-- Where the function comes to an end, the thread comes to it too, access by access. -/
theorem reaches_serve {result : Except String Unit} {script : List Reading} (log : List LogLine)
    (h : (serve clock p s script).result = some result) :
    ∃ pump, Reaches clock ⟨⟨p, .checking, .ok ()⟩, s, script, log⟩
      ⟨⟨pump, .finished, result⟩, (serve clock p s script).shared, (serve clock p s script).left,
        log ++ (serve clock p s script).log⟩ := by
  induction script generalizing p s log with
  | nil =>
      cases hquit : s.controls.quit with
      | false =>
          rw [serve_nil hquit] at h
          cases h
      | true =>
          rw [serve_of_quit hquit] at h ⊢
          obtain rfl := Option.some.inj h
          refine ⟨p, ?_⟩
          rw [List.append_nil]
          exact .ended hquit
  | cons first rest ih =>
      cases hquit : s.controls.quit with
      | true =>
          rw [serve_of_quit hquit] at h ⊢
          obtain rfl := Option.some.inj h
          refine ⟨p, ?_⟩
          rw [List.append_nil]
          exact .ended hquit
      | false =>
          cases first with
          | error reason =>
              rw [serve_error hquit] at h ⊢
              obtain rfl := Option.some.inj h
              exact ⟨p, .failed hquit reason rest⟩
          | ok event =>
              generalize hturned : p.turn (clock rest.length) (.ok event) s = turned
              rw [serve_ok hquit hturned] at h ⊢
              obtain ⟨pump, hreaches⟩ := ih (log ++ turned.log) h
              refine ⟨pump, (Reaches.turned hquit hturned).trans ?_⟩
              rw [← List.append_assoc]
              exact hreaches

/-- The thread on any script that has a reading that ends it, with any flags, any keys held, and any
pump, at any times, and with no one else to write to the flags. It comes to its end, with no key
held. If it is to end from the start, it takes no reading, reports nothing, leaves the flags alone,
and its answer is good. Otherwise it takes the readings up to the first with which the user quits or
the input fails, and no other. Its answer is that failure, or good. The program is told to quit; the
machine is paused if it was so at first and the pause has been switched an even number of times, or
the other way round; a step is asked for if it was so at first or one of the events asks for it. The
log has a line for each pause, the first one telling that the machine is paused unless it was so at
first, each other one the opposite of the one before, and then a line about the failure if there is
one. -/
theorem serve_comes_to_its_end (clock : Nat → Instant) (p : Pump) (s : Shared)
    (script : List Reading) (h : ∃ reading ∈ script, reading.ends = true) :
    let served := serve clock p s script
    (∃ n pump result, served.result = some result ∧
      (access clock)^[n] ⟨⟨p, .checking, .ok ()⟩, s, script, []⟩ =
        ⟨⟨pump, .finished, result⟩, served.shared, served.left, served.log⟩) ∧
    (∀ key, served.shared.keys.isHeld key = false) ∧
    (s.controls.quit = true → served.left = script ∧ served.result = some (.ok ()) ∧
      served.shared.controls = s.controls ∧ served.log = []) ∧
    (s.controls.quit = false → ∃ before last, script = before ++ last :: served.left ∧
      (∀ reading ∈ before, reading.ends = false) ∧ last.ends = true ∧
      let events := (before ++ [last]).filterMap Reading.event?
      let controls := served.shared.controls
      served.result = some (last.map fun _ => ()) ∧
      controls.quit = true ∧
      controls.paused = (s.controls.paused ^^ decide (Odd (events.count .pause))) ∧
      (controls.stepOnce = true ↔ s.controls.stepOnce = true ∨ .step ∈ events) ∧
      served.log = pauseLines s.controls.paused (events.count .pause) ++ last.report) := by
  intro served
  cases hquit : s.controls.quit with
  | true =>
      have hserved : served = ⟨{ s with keys := Keypad.released }, script, some (.ok ()), []⟩ :=
        serve_of_quit hquit script
      have hresult : served.result = some (.ok ()) := by rw [hserved]
      obtain ⟨pump, n, hn⟩ := reaches_serve [] hresult
      refine ⟨⟨n, pump, .ok (), hresult, hn⟩, ?_, fun _ => ?_, fun hother => nomatch hother⟩
      · rw [hserved]
        exact Keypad.isHeld_released
      · rw [hserved]
        exact ⟨rfl, rfl, rfl, rfl⟩
  | false =>
      obtain ⟨before, last, hsplit, hbefore, hends, hserved⟩ :=
        exists_servedUpTo clock p hquit h
      obtain ⟨pump, n, hn⟩ := reaches_serve [] hserved.result
      refine ⟨⟨n, pump, _, hserved.result, hn⟩, ?_, (fun hother => nomatch hother), fun _ => ?_⟩
      · rw [hserved.keys]
        exact Keypad.isHeld_released
      · exact ⟨before, last, hsplit, hbefore, hends, hserved.result, hserved.quit, hserved.paused,
          hserved.stepOnce, hserved.log⟩

/-- A key is pressed and the machine is paused and asked for a step before the input fails. -/
def cutOff : List Reading :=
  [.ok (some (.key 5)), .ok (some .pause), .ok none, .ok (some .step), .error "no terminal",
    .ok (some .quit)]

theorem serve_comes_to_its_end_cutOff :
    let served := serve (fun _ => 0) Pump.idle ⟨Keypad.released.set 7 true, .start false⟩ cutOff
    (∃ reading ∈ cutOff, reading.ends = true) ∧
      (∀ key, served.shared.keys.isHeld key = false) ∧ served.shared.controls.quit = true := by
  have hends : ∃ reading ∈ cutOff, reading.ends = true := by
    refine ⟨.error "no terminal", ?_, rfl⟩
    simp [cutOff]
  obtain ⟨-, hkeys, -, hgoesOn⟩ := serve_comes_to_its_end (fun _ => 0) Pump.idle
    ⟨Keypad.released.set 7 true, .start false⟩ cutOff hends
  obtain ⟨_, _, -, -, -, -, hquit, -⟩ := hgoesOn rfl
  exact ⟨hends, hkeys, hquit⟩

end InputThread

end Chip8
