import Mathlib.Data.List.Induction
import Chip8.CallStack

/-!
# Last in, first out

A call stack answers pushes and pops like a list of at most sixteen addresses: a push puts its
address in front of the list and a pop takes the first one off. `toList` carries the one over to the
other, call by call, so the slots that are not live show in no answer. Which address a pop takes can
also be told without a list, from the answers before it: it is the last one whose push has not been
undone. The slots and the depth are written in place, one after the other, and a call that is
refused has not come to its first write.
-/

namespace Chip8

/-- A call on a stack of addresses. -/
inductive StackCall where
  | push (a : Word)
  | pop

/-- What comes of a call on a stack. -/
inductive StackReply where
  /-- A push has put this address on top. -/
  | pushed (a : Word)
  /-- A pop has taken this address off. -/
  | popped (a : Word)
  /-- There was no room for a push, or nothing to pop. -/
  | refused
  deriving DecidableEq

namespace StackCall

/-! ## Runs of calls -/

section Runs

variable {σ τ : Type} {answer : σ → StackCall → StackReply × σ}
  {answer' : τ → StackCall → StackReply × τ} {view : σ → τ}

/-- What some calls leave, made in order, each whether or not the one before was refused. -/
def afterAll (answer : σ → StackCall → StackReply × σ) (s : σ) (calls : List StackCall) : σ :=
  calls.foldl (fun s c => (answer s c).2) s

/-- What comes of some calls, in order. -/
def replies (answer : σ → StackCall → StackReply × σ) (s : σ) : List StackCall → List StackReply
  | [] => []
  | c :: calls => (answer s c).1 :: replies answer (answer s c).2 calls

/-- A view that every call carries over is carried over by a run. -/
theorem afterAll_view (hview : ∀ s c, answer' (view s) c = ((answer s c).1, view (answer s c).2))
    (s : σ) (calls : List StackCall) :
    afterAll answer' (view s) calls = view (afterAll answer s calls) := by
  induction calls generalizing s with
  | nil => rfl
  | cons c calls ih =>
      have hnext : (answer' (view s) c).2 = view (answer s c).2 := by rw [hview]
      calc
        afterAll answer' (view s) (c :: calls)
            = afterAll answer' (answer' (view s) c).2 calls := rfl
        _ = view (afterAll answer (answer s c).2 calls) := by rw [hnext, ih]
        _ = view (afterAll answer s (c :: calls)) := rfl

/-- A view that every call carries over shows everything that comes of a run. -/
theorem replies_view (hview : ∀ s c, answer' (view s) c = ((answer s c).1, view (answer s c).2))
    (s : σ) (calls : List StackCall) :
    replies answer' (view s) calls = replies answer s calls := by
  induction calls generalizing s with
  | nil => rfl
  | cons c calls ih => rw [replies, replies, hview, ih]

end Runs

/-! ## Lists of addresses -/

/-- What comes of a call on a list of at most sixteen addresses, the most recent first, and what the
list is after it. -/
def onList (live : List Word) : StackCall → StackReply × List Word
  | push a => if live.length < 16 then (.pushed a, a :: live) else (.refused, live)
  | pop =>
    match live with
    | [] => (.refused, [])
    | a :: rest => (.popped a, rest)

end StackCall

namespace StackReply

/-! ## The push that a pop undoes -/

/-- What a list of addresses is after a call with this reply. -/
def effect (live : List Word) : StackReply → List Word
  | pushed a => a :: live
  | popped _ => live.tail
  | refused => live

/-- The effect of a reply is what the call does to the list. -/
theorem effect_onList (live : List Word) (c : StackCall) :
    effect live (c.onList live).1 = (c.onList live).2 := by
  cases c with
  | push a =>
      rw [StackCall.onList]
      split
      · rfl
      · rfl
  | pop =>
      cases live with
      | nil => rfl
      | cons a rest => rfl

/-- The list after a run can be told from what has come of it. -/
theorem foldl_effect_replies (live : List Word) (calls : List StackCall) :
    (StackCall.replies StackCall.onList live calls).foldl effect live =
      StackCall.afterAll StackCall.onList live calls := by
  induction calls generalizing live with
  | nil => rfl
  | cons c calls ih =>
      rw [StackCall.replies, List.foldl_cons, effect_onList, ih]
      rfl

/-- Every push among these replies is followed by the pop that undoes it, and every pop undoes one
of the pushes. Which addresses they are of does not matter. -/
inductive Undone : List StackReply → Prop
  | nil : Undone []
  | refused {rest : List StackReply} (hrest : Undone rest) : Undone (refused :: rest)
  | pair (a b : Word) {within rest : List StackReply} (hwithin : Undone within)
      (hrest : Undone rest) : Undone (pushed a :: (within ++ popped b :: rest))

theorem Undone.append {made more : List StackReply} (h : Undone made) (hmore : Undone more) :
    Undone (made ++ more) := by
  induction h with
  | nil => exact hmore
  | refused _ ih => exact ih.refused
  | pair a b hwithin _ _ ih =>
      rw [List.cons_append, List.append_assoc, List.cons_append]
      exact hwithin.pair a b ih

/-- The address is the last one that has been pushed and has not been popped: all that has been
pushed later has been undone. -/
def OnTop (made : List StackReply) (a : Word) : Prop :=
  ∃ before since, made = before ++ pushed a :: since ∧ Undone since

/-- Calls that have all been undone leave the list as it was. -/
theorem Undone.foldl_effect {made : List StackReply} (h : Undone made) (live : List Word) :
    made.foldl effect live = live := by
  induction h generalizing live with
  | nil => rfl
  | refused _ ih => exact ih live
  | pair a b _ _ ihwithin ihrest =>
      simp only [List.foldl_cons, List.foldl_append, effect, ihwithin, List.tail_cons, ihrest]

/-- The first address of the list comes from a push that has not been undone, and the others from
before this push. -/
theorem exists_of_foldl_effect {made : List StackReply} {a : Word} {live : List Word}
    (h : made.foldl effect [] = a :: live) :
    ∃ before since, made = before ++ pushed a :: since ∧ Undone since ∧
      before.foldl effect [] = live := by
  -- A pop uncovers the address under the one that it takes off. Its push is the one to find, and it
  -- comes before the push of the other one, so the induction hypothesis is needed at two lengths.
  induction hlength : made.length using Nat.strongRecOn generalizing made a live with
  | ind n ih =>
      subst hlength
      cases made using List.reverseRecOn with
      | nil => cases h
      | append_singleton made reply =>
          rw [List.length_append, List.length_singleton] at ih
          rw [List.foldl_append, List.foldl_cons, List.foldl_nil] at h
          cases reply with
          | pushed b =>
              obtain ⟨rfl, hlive⟩ := List.cons.inj h
              exact ⟨made, [], rfl, .nil, hlive⟩
          | refused =>
              obtain ⟨before, since, rfl, hsince, hlive⟩ :=
                ih made.length (Nat.lt_succ_self _) h rfl
              refine ⟨before, since ++ [refused], ?_, hsince.append (.refused .nil), hlive⟩
              rw [List.append_assoc, List.cons_append]
          | popped b =>
              obtain ⟨top, htop⟩ : ∃ top, made.foldl effect [] = top :: a :: live := by
                cases hmade : made.foldl effect [] with
                | nil =>
                    rw [hmade] at h
                    cases h
                | cons top rest =>
                    rw [hmade] at h
                    exact ⟨top, congrArg (List.cons top) h⟩
              obtain ⟨middle, since, rfl, hsince, hmiddle⟩ :=
                ih made.length (Nat.lt_succ_self _) htop rfl
              have hshorter : middle.length < (middle ++ pushed top :: since).length + 1 := by
                rw [List.length_append]
                omega
              obtain ⟨before, within, rfl, hwithin, hlive⟩ := ih middle.length hshorter hmiddle rfl
              refine ⟨before, within ++ pushed top :: (since ++ [popped b]), ?_, ?_, hlive⟩
              · simp only [List.append_assoc, List.cons_append]
              · exact hwithin.append (hsince.pair top b .nil)

/-- The address on top is the first one of the list. -/
theorem onTop_iff {made : List StackReply} {a : Word} :
    OnTop made a ↔ (made.foldl effect []).head? = some a := by
  constructor
  · rintro ⟨before, since, rfl, hsince⟩
    rw [List.foldl_append, List.foldl_cons, hsince.foldl_effect]
    rfl
  · intro hhead
    obtain ⟨live, hlive⟩ := List.head?_eq_some_iff.mp hhead
    obtain ⟨before, since, hmade, hsince, -⟩ := exists_of_foldl_effect hlive
    exact ⟨before, since, hmade, hsince⟩

end StackReply

namespace CallStack

/-! ## Calls on slots -/

/-- What a call stack answers to a call, and what the call makes of it. -/
def answer (s : CallStack) : StackCall → StackReply × CallStack
  | .push a =>
    match s.push? a with
    | some t => (.pushed a, t)
    | none => (.refused, s)
  | .pop =>
    match s.pop? with
    | some (a, t) => (.popped a, t)
    | none => (.refused, s)

/-- A call makes of the live addresses what it makes of a list, and the same comes of it. -/
theorem onList_toList (s : CallStack) (c : StackCall) :
    c.onList s.toList = ((s.answer c).1, (s.answer c).2.toList) := by
  cases c with
  | push a =>
      rw [StackCall.onList, length_toList, answer]
      cases h : s.push? a with
      | none =>
          have hfull : ¬ s.depth < 16 := by rw [push?_eq_none_iff.mp h]; decide
          rw [if_neg hfull]
      | some t =>
          have hroom : s.depth < 16 := Nat.lt_of_le_of_ne s.depth_le (depth_ne_of_push? h)
          rw [if_pos hroom, toList_of_push? h]
  | pop =>
      rw [answer]
      cases h : s.pop? with
      | none =>
          rw [toList_eq_nil_iff.mpr (pop?_eq_none_iff.mp h)]
          rfl
      | some p =>
          rw [toList_of_pop? (a := p.1) (t := p.2) h]
          rfl

/-- A run leaves the live addresses that it makes of the list of them. -/
theorem toList_afterAll (s : CallStack) (calls : List StackCall) :
    (StackCall.afterAll answer s calls).toList =
      StackCall.afterAll StackCall.onList s.toList calls :=
  (StackCall.afterAll_view onList_toList s calls).symm

/-- What comes of a run depends on the live addresses alone. -/
theorem replies_eq (s : CallStack) (calls : List StackCall) :
    StackCall.replies answer s calls = StackCall.replies StackCall.onList s.toList calls :=
  (StackCall.replies_view onList_toList s calls).symm

/-- A pop takes off the first live address. -/
theorem map_fst_pop? (s : CallStack) : s.pop?.map Prod.fst = s.toList.head? := by
  calc
    s.pop?.map Prod.fst = (s.pop?.map fun p => (p.1, p.2.toList)).map Prod.fst := by
      rw [Option.map_map]
      rfl
    _ = (s.toList.head?.map fun a => (a, s.toList.tail)).map Prod.fst := by
      rw [map_toList_pop?]
    _ = s.toList.head? := by
      rw [Option.map_map]
      exact Option.map_id_apply

/-- The slots that are not live are not part of the list. -/
theorem toList_withSlots {s : CallStack} {values : Vector Word 16}
    (h : ∀ i, i < s.depth → values[i]? = s.slots[i]?) :
    ({ s with slots := values } : CallStack).toList = s.toList := by
  have htake : values.toList.take s.depth = s.slots.toList.take s.depth := by
    apply List.ext_getElem?
    intro i
    by_cases hi : i < s.depth
    · rw [List.getElem?_take_of_lt hi, List.getElem?_take_of_lt hi, Vector.getElem?_toList,
        Vector.getElem?_toList, h i hi]
    · rw [List.getElem?_take_eq_none (Nat.le_of_not_lt hi),
        List.getElem?_take_eq_none (Nat.le_of_not_lt hi)]
  exact congrArg List.reverse htake

/-! ## Calls in place -/

/-- Write an address into a slot. What is written stays, also if the call is given up later. -/
def write (slot : Fin 16) (a : Word) : OptionT (StateM CallStack) Unit :=
  modify fun s => { s with slots := s.slots.set slot a }

/-- Write the depth. -/
def setDepth (depth : Nat) (h : depth ≤ 16) : OptionT (StateM CallStack) Unit :=
  modify fun s => { s with depth := depth, depth_le := h }

/-- The last of the live slots is one of the sixteen. -/
theorem last_lt {s : CallStack} (h : 0 < s.depth) : s.depth - 1 < 16 := by
  have := s.depth_le
  omega

/-- What a call does to a stack, one write after the other, and what comes of it. -/
def writes (s : CallStack) : StackCall → OptionT (StateM CallStack) StackReply
  | .push a =>
    if h : s.depth < 16 then do
      write ⟨s.depth, h⟩ a
      setDepth (s.depth + 1) h
      return .pushed a
    else failure
  | .pop =>
    if h : 0 < s.depth then do
      have hlast := last_lt h
      setDepth (s.depth - 1) (Nat.le_of_lt hlast)
      return .popped ((← get).slots.get ⟨s.depth - 1, hlast⟩)
    else failure

/-- What comes of a call that is made in place, and the stack as the call has left it. -/
def inPlace (s : CallStack) (c : StackCall) : StackReply × CallStack :=
  let (reply?, t) := (s.writes c).run s
  (reply?.getD .refused, t)

/-- A call in place comes to the same as one on the stack as a whole. -/
theorem inPlace_eq_answer (s : CallStack) (c : StackCall) : s.inPlace c = s.answer c := by
  cases c with
  | push a =>
      rw [inPlace, writes, answer, push?]
      by_cases h : s.depth < 16
      · rw [dif_pos h, dif_pos h]
        rfl
      · rw [dif_neg h, dif_neg h]
        rfl
  | pop =>
      rw [inPlace, writes, answer, pop?]
      by_cases h : 0 < s.depth
      · rw [dif_pos h, dif_pos h]
        rfl
      · rw [dif_neg h, dif_neg h]
        rfl

/-- A call that is refused has not written anything. -/
theorem inPlace_of_refused {s : CallStack} {c : StackCall} (h : (s.inPlace c).1 = .refused) :
    (s.inPlace c).2 = s := by
  rw [inPlace_eq_answer] at h ⊢
  cases c with
  | push a =>
      rw [answer] at h ⊢
      cases hpush : s.push? a with
      | none => rfl
      | some t =>
          rw [hpush] at h
          cases h
  | pop =>
      rw [answer] at h ⊢
      cases hpop : s.pop? with
      | none => rfl
      | some p =>
          rw [hpop] at h
          cases h

/-- What comes of any calls on an empty stack is what comes of them on an empty list, and the depth
is the length of this list: a push goes well if and only if the list has fewer than sixteen
addresses, and a pop takes off the address whose push is the last one that has not been undone, or
fails if and only if the list is empty. A call in place comes to the same, and leaves the stack as
it was if it is refused. Whatever stands in the slots above the depth, the same comes of all later
calls. -/
theorem answers_as_bounded_list (calls : List StackCall) :
    let now := StackCall.afterAll answer empty calls
    let live := StackCall.afterAll StackCall.onList [] calls
    let made := StackCall.replies answer empty calls
    made = StackCall.replies StackCall.onList [] calls ∧
    now.depth = live.length ∧
    (∀ a, (now.push? a).isSome ↔ live.length < 16) ∧
    (∀ a, now.pop?.map Prod.fst = some a ↔ StackReply.OnTop made a) ∧
    (now.pop? = none ↔ live = []) ∧
    (∀ c, now.inPlace c = now.answer c ∧
      ((now.inPlace c).1 = .refused → (now.inPlace c).2 = now)) ∧
    ∀ values : Vector Word 16, (∀ i, i < now.depth → values[i]? = now.slots[i]?) →
      let other : CallStack := { now with slots := values }
      ∀ later, StackCall.replies answer other later = StackCall.replies answer now later ∧
        (StackCall.afterAll answer other later).depth =
          (StackCall.afterAll answer now later).depth := by
  intro now live made
  have hmade : made = StackCall.replies StackCall.onList [] calls := by
    rw [← toList_empty]
    exact replies_eq empty calls
  have hlive : now.toList = live := by
    rw [toList_afterAll, toList_empty]
  have hdepth : now.depth = live.length := by
    rw [← hlive, length_toList]
  refine ⟨hmade, hdepth, ?_, ?_, ?_, ?_, ?_⟩
  · intro a
    rw [← hdepth, Option.isSome_iff_ne_none, ne_eq, push?_eq_none_iff]
    have := now.depth_le
    omega
  · intro a
    have heffect : made.foldl StackReply.effect [] = now.toList := by
      rw [hmade, StackReply.foldl_effect_replies, hlive]
    rw [StackReply.onTop_iff, heffect, map_fst_pop?]
  · rw [pop?_eq_none_iff, ← hlive, toList_eq_nil_iff]
  · intro c
    exact ⟨inPlace_eq_answer now c, inPlace_of_refused⟩
  · intro values hvalues other later
    have hother : other.toList = now.toList := toList_withSlots hvalues
    refine ⟨?_, depth_eq_of_toList ?_⟩
    · rw [replies_eq, replies_eq, hother]
    · rw [toList_afterAll, toList_afterAll, hother]

/-- Seventeen pushes, the last one of which is refused, and two pops. -/
def overfilled : List StackCall :=
  (List.range 17).map (fun i => .push (0x200 + BitVec.ofNat 16 i)) ++ [.pop, .pop]

/-- The slots after these calls, with another value in the two that have been popped. -/
def otherSlots : Vector Word 16 :=
  (StackCall.afterAll answer empty overfilled).slots.map fun a => if a ≤ 0x20D then a else 0xFFF

theorem answers_as_bounded_list_overfilled :
    let full := StackCall.afterAll answer empty (overfilled.take 17)
    let now := StackCall.afterAll answer empty overfilled
    let other : CallStack := { now with slots := otherSlots }
    let later : List StackCall := [.pop, .push 0x300, .pop, .pop]
    (full.inPlace (.push 0x300)).1 = .refused ∧ (full.inPlace (.push 0x300)).2 = full ∧
      now.depth = 14 ∧ StackReply.OnTop (StackCall.replies answer empty overfilled) 0x20D ∧
      (∀ i, i < now.depth → otherSlots[i]? = now.slots[i]?) ∧ otherSlots ≠ now.slots ∧
      StackCall.replies answer other later =
        [.popped 0x20D, .pushed 0x300, .popped 0x300, .popped 0x20C] := by
  intro full now other later
  have hrefused : (full.inPlace (.push 0x300)).1 = .refused := by decide +kernel
  obtain ⟨-, -, -, -, -, hinPlace, -⟩ := answers_as_bounded_list (overfilled.take 17)
  have hpop : now.pop?.map Prod.fst = some 0x20D := by decide +kernel
  have hslots : ∀ i, i < now.depth → otherSlots[i]? = now.slots[i]? := by decide +kernel
  have hlater : StackCall.replies answer now later =
      [.popped 0x20D, .pushed 0x300, .popped 0x300, .popped 0x20C] := by decide +kernel
  obtain ⟨-, -, -, htop, -, -, hunseen⟩ := answers_as_bounded_list overfilled
  refine ⟨hrefused, (hinPlace (.push 0x300)).2 hrefused, by decide +kernel, (htop 0x20D).mp hpop,
    hslots, by decide +kernel, ?_⟩
  exact (hunseen otherSlots hslots later).1.trans hlater

end CallStack

end Chip8
