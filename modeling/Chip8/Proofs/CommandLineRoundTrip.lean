import Mathlib.Algebra.GroupWithZero.Nat
import Mathlib.Data.List.Nodup
import Mathlib.Data.List.TakeWhile
import Chip8.Config.CommandLine

/-!
# Settings written on a command line

Settings can be written on a command line in many ways. The name of the program and the options
stand in any order, the value of an option follows it in the next word or after an equals sign, its
digits may be led by zeros, and an option that has its usual value may be left out. A command line
is taken here as a list of parts, one for the program and one for each option that is there. Reading
the words of the parts gives back the settings they were written for.

Two consequences stand by themselves. All orders of the parts of a line are read alike
(`parse_perm`), and no settings that can be written down are out of reach (`exists_parse_eq`): the
line that leaves nothing out spells them out.

In the other direction, a line that can be read never asks for a clock that stands still, so the
time for one instruction is the greatest number of nanoseconds for which a second has room at that
rate.
-/

namespace Chip8

namespace CommandLine

/-! ## Parts of a line -/

/-- A text of decimal digits stands for a number. Zeros may come first. -/
structure IsNumeral (text : String) (n : Nat) : Prop where
  nonempty : text.toList ≠ []
  digits : ∀ c ∈ text.toList, c.isDigit
  value : Nat.ofDigitChars 10 text.toList 0 = n

/-- How an option is spelled after the double dash. -/
def spelling : OptionName → String
  | .setting .clockHz => "clock-hz"
  | .setting .seed => "seed"
  | .setting .cycles => "cycles"
  | .switch .mute => "mute"
  | .switch .paused => "paused"
  | .switch .trace => "trace"
  | .help => "help"

/-- One part of a command line. -/
inductive Part where
  /-- The name of the program. -/
  | program (word : String)
  /-- An option with the text of its value, which is joined to it by an equals sign or stands in a
  word of its own. -/
  | setting (s : Setting) (text : String) (joined : Bool)
  /-- An option without a value. -/
  | switch (s : Switch)
  deriving DecidableEq, Repr

namespace Part

/-- The words of a part. -/
def words : Part → List String
  | program word => [word]
  | setting s text false => ["--" ++ spelling (.setting s), text]
  | setting s text true => ["--" ++ spelling (.setting s) ++ "=" ++ text]
  | switch s => ["--" ++ spelling (.switch s)]

/-- The option that a part is about, or nothing for the name of the program. -/
def subject : Part → Option OptionName
  | program _ => none
  | setting s _ _ => some (.setting s)
  | switch s => some (.switch s)

/-- The switch that a part turns on. -/
def switch? : Part → Option Switch
  | switch s => some s
  | _ => none

@[simp] theorem subject_program (word : String) : (program word).subject = none := rfl

@[simp] theorem subject_setting (s : Setting) (text : String) (joined : Bool) :
    (setting s text joined).subject = some (.setting s) := rfl

@[simp] theorem subject_switch (s : Switch) : (switch s).subject = some (.switch s) := rfl

@[simp] theorem switch?_program (word : String) : (program word).switch? = none := rfl

@[simp] theorem switch?_setting (s : Setting) (text : String) (joined : Bool) :
    (setting s text joined).switch? = none := rfl

@[simp] theorem switch?_switch (s : Switch) : (switch s).switch? = some s := rfl

end Part

end CommandLine

namespace Config

open CommandLine

/-- The value of an option in some settings. -/
def value? (c : Config) : Setting → Option Nat
  | .clockHz => some c.clockHz.toNat
  | .seed => c.seed.map UInt64.toNat
  | .cycles => some c.cycles.toNat

/-- Whether a switch is on in some settings. -/
def isOn (c : Config) : Switch → Bool
  | .mute => c.mute
  | .paused => c.paused
  | .trace => c.trace

/-- A part of a command line tells what the settings have. -/
def IsTold (c : Config) : Part → Prop
  | .program word => word = c.rom
  | .setting s text _ => ∃ n, c.value? s = some n ∧ IsNumeral text n
  | .switch s => c.isOn s

/-- A command line spells out some settings: it names the program, no part is there twice, and what
it leaves out is as usual. -/
structure IsSpelled (c : Config) (line : List Part) : Prop where
  told : ∀ p ∈ line, c.IsTold p
  once : (line.map Part.subject).Nodup
  program : none ∈ line.map Part.subject
  value : ∀ s, some (.setting s) ∉ line.map Part.subject → c.value? s = (ofRom c.rom).value? s
  isOn : ∀ s, some (.switch s) ∉ line.map Part.subject → c.isOn s = (ofRom c.rom).isOn s

/-- The settings can be written down: the program has a name that is not taken for an option, and
the clock runs. -/
structure IsWritable (c : Config) : Prop where
  named : c.rom ≠ ""
  undashed : c.rom.toList.head? ≠ some '-'
  runs : 1 ≤ c.clockHz.toNat

end Config

namespace CommandLine

/-! ## Numbers -/

/-- Digits are read as the number they stand for. -/
theorem IsNumeral.number?_eq {limit n : Nat} {text : String} (h : IsNumeral text n)
    (hle : n ≤ limit) : number? limit text = some n := by
  have hplus : text.toList.head? ≠ some '+' := by
    intro hhead
    have hdigit := h.digits '+' (List.mem_of_head? hhead)
    exact absurd hdigit (by decide)
  have hvalue : text.toList.foldl (fun acc c => acc * 10 + (c.toNat - 48)) 0 = n := by
    rw [← h.value, Nat.ofDigitChars_eq_foldl]
    congr 1
    funext acc c
    rw [Nat.mul_comm]
    rfl
  unfold number?
  split
  · next rest heq => exact absurd (by rw [heq]; rfl) hplus
  · have hdigits : ¬(text.toList.isEmpty ∨ text.toList.any (fun c => !c.isDigit)) := by
      simpa [h.nonempty] using h.digits
    simp only [if_neg hdigits, hvalue, if_pos hle]

/-- A number that is read is at most the limit. -/
theorem le_of_number? {limit n : Nat} {text : String} (h : number? limit text = some n) :
    n ≤ limit := by
  simp only [number?] at h
  obtain ⟨-, hle⟩ := Option.ite_none_left_eq_some.mp h
  obtain ⟨hle, hn⟩ := Option.ite_none_right_eq_some.mp hle
  exact (Option.some.inj hn) ▸ hle

/-- The digits of a number stand for it. -/
theorem isNumeral_toDigits (n : Nat) : IsNumeral (String.ofList (Nat.toDigits 10 n)) n := by
  constructor
  · simp
  · intro c hc
    rw [String.toList_ofList] at hc
    apply Nat.isDigit_of_mem_toDigits _ _ hc <;> decide
  · rw [String.toList_ofList]
    exact Nat.ofDigitChars_ten_toDigits

/-! ## Forms of words -/

theorem form_of_undashed {word : String} (h : word.toList.head? ≠ some '-') :
    form word = .plain := by
  unfold form
  split <;> simp_all

/-- A numeral is taken for no option. -/
theorem IsNumeral.form_eq {text : String} {n : Nat} (h : IsNumeral text n) :
    form text = .plain := by
  apply form_of_undashed
  intro hhead
  have hdigit := h.digits '-' (List.mem_of_head? hhead)
  exact absurd hdigit (by decide)

theorem form_of_dashes {word : String} {rest : List Char} (hword : word.toList = '-' :: '-' :: rest)
    (hne : rest ≠ []) : form word = .long (splitName rest).1 (splitName rest).2 := by
  unfold form
  rw [hword]
  cases rest with
  | nil => contradiction
  | cons _ _ => rfl

theorem ne_equals_of_notMem {name : List Char} (h : '=' ∉ name) : ∀ c ∈ name, c != '=' := by
  intro c hc
  rw [bne_iff_ne]
  rintro rfl
  exact h hc

/-- Nothing follows a name without an equals sign. -/
theorem splitName_of_notMem {name : String} (h : '=' ∉ name.toList) :
    splitName name.toList = (name, none) := by
  have hname := ne_equals_of_notMem h
  rw [splitName, List.takeWhile_eq_self_iff.mpr hname, List.dropWhile_eq_nil_iff.mpr hname,
    String.ofList_toList]

theorem splitName_append {name : String} (h : '=' ∉ name.toList) (value : List Char) :
    splitName (name.toList ++ '=' :: value) = (name, some (String.ofList value)) := by
  have hname := ne_equals_of_notMem h
  rw [splitName, List.takeWhile_append_of_pos hname, List.dropWhile_append_of_pos hname]
  simp

theorem option?_spelling (o : OptionName) : option? (spelling o) = some o := by
  rcases o with (_ | _ | _) | (_ | _ | _) | _ <;> rfl

theorem equals_notMem_spelling (o : OptionName) : '=' ∉ (spelling o).toList := by
  rcases o with (_ | _ | _) | (_ | _ | _) | _ <;> decide

theorem spelling_ne_nil (o : OptionName) : (spelling o).toList ≠ [] := by
  rcases o with (_ | _ | _) | (_ | _ | _) | _ <;> decide

namespace Draft

variable {d e : Draft} {s : Setting} {text : String}

/-- An option alone in its word. -/
theorem word_spelling (hopen : d.namesOnly = false) (o : OptionName) :
    d.word ("--" ++ spelling o) = d.option o none := by
  have hlist : ("--" ++ spelling o).toList = '-' :: '-' :: (spelling o).toList := by simp
  have hform : form ("--" ++ spelling o) = .long (spelling o) none := by
    rw [form_of_dashes hlist (spelling_ne_nil o), splitName_of_notMem (equals_notMem_spelling o)]
  simp [word, hopen, hform, option?_spelling]

/-- An option with a value after an equals sign. -/
theorem word_spelling_joined (hopen : d.namesOnly = false) (o : OptionName) (text : String) :
    d.word ("--" ++ spelling o ++ "=" ++ text) = d.option o (some text) := by
  have hlist : ("--" ++ spelling o ++ "=" ++ text).toList =
      '-' :: '-' :: ((spelling o).toList ++ '=' :: text.toList) := by simp
  have hform : form ("--" ++ spelling o ++ "=" ++ text) = .long (spelling o) (some text) := by
    rw [form_of_dashes hlist (by simp), splitName_append (equals_notMem_spelling o),
      String.ofList_toList]
  simp [word, hopen, hform, option?_spelling]

/-! ## What one word changes -/

theorem assign_clockHz {v : UInt32} (hunset : d.clockHz = none) (htext : IsNumeral text v.toNat)
    (hruns : 1 ≤ v.toNat) : d.assign .clockHz text = .ok { d with clockHz := some v } := by
  have hread : number? (UInt32.size - 1) text = some v.toNat :=
    htext.number?_eq (Nat.le_sub_one_of_lt v.toNat_lt)
  obtain ⟨n, hn⟩ : ∃ n, v.toNat = n + 1 := ⟨v.toNat - 1, by omega⟩
  have hv : UInt32.ofNat (n + 1) = v := by rw [← hn, UInt32.ofNat_toNat]
  simp only [assign, isSet, hunset, hread, hn, hv]
  rfl

theorem assign_seed {v : UInt64} (hunset : d.seed = none) (htext : IsNumeral text v.toNat) :
    d.assign .seed text = .ok { d with seed := some v } := by
  have hread : number? (UInt64.size - 1) text = some v.toNat :=
    htext.number?_eq (Nat.le_sub_one_of_lt v.toNat_lt)
  simp only [assign, isSet, hunset, hread, UInt64.ofNat_toNat]
  rfl

theorem assign_cycles {v : UInt64} (hunset : d.cycles = none) (htext : IsNumeral text v.toNat) :
    d.assign .cycles text = .ok { d with cycles := some v } := by
  have hread : number? (UInt64.size - 1) text = some v.toNat :=
    htext.number?_eq (Nat.le_sub_one_of_lt v.toNat_lt)
  simp only [assign, isSet, hunset, hread, UInt64.ofNat_toNat]
  rfl

/-- A value changes one field, and a clock that it sets runs. -/
theorem of_assign (h : d.assign s text = .ok e) :
    (∃ v, 1 ≤ v.toNat ∧ e = { d with clockHz := some v }) ∨
      (∃ v, e = { d with seed := some v }) ∨ ∃ v, e = { d with cycles := some v } := by
  unfold assign at h
  split at h
  · contradiction
  cases s with
  | clockHz =>
    left
    dsimp only at h
    split at h
    · next n hn =>
      have hle := le_of_number? hn
      refine ⟨.ofNat (n + 1), ?_, (Except.ok.inj h).symm⟩
      rw [UInt32.toNat_ofNat_of_lt' (by omega)]
      omega
    · contradiction
  | seed =>
    right; left
    dsimp only at h
    split at h
    · exact ⟨_, (Except.ok.inj h).symm⟩
    · contradiction
  | cycles =>
    right; right
    dsimp only at h
    split at h
    · exact ⟨_, (Except.ok.inj h).symm⟩
    · contradiction

/-- What waits to be examined is a name, and then there is one, or it brings none. -/
theorem hasName_of_settle (h : d.settle = .ok e) : d.hasName = e.rom.isSome := by
  unfold settle at h
  unfold hasName
  split at h
  · next hd =>
    cases h
    simp [hd]
  · contradiction
  · next hd =>
    rw [hd]
    rcases of_assign h with ⟨_, _, rfl⟩ | ⟨_, rfl⟩ | ⟨_, rfl⟩ <;> rfl
  · contradiction
  · next hd =>
    cases h
    simp [hd]

/-- A name that is not empty is taken. -/
theorem settle_of_name {word : String} (hd : d.unexamined = some (.name word)) (h : word ≠ "") :
    d.settle = .ok { d with rom := some word, unexamined := none } := by
  unfold settle
  split <;> simp_all

/-- A word without dashes names the program, unless an option waits for its value. -/
theorem word_of_plain {word : String} (hopen : d.namesOnly = false) (hform : form word = .plain)
    (h : d.settle = .ok e) : d.word word = d.name word := by
  simp only [Draft.word, hopen, hform]
  split
  · contradiction
  · split
    · next hd =>
      -- The option could not have been examined without its value.
      simp [settle, hd] at h
    · rfl

/-- An option that waits for its value takes a word without dashes. -/
theorem word_of_awaited {word : String} (hopen : d.namesOnly = false) (hform : form word = .plain)
    (hd : d.unexamined = some (.setting s none)) :
    d.word word = .ok { d with unexamined := some (.setting s (some word)) } := by
  simp [Draft.word, hopen, hform, hd]

/-- The settings at the end of a line that names a program. -/
theorem finish_of_settle {rom : String} (h : d.settle = .ok e) (hrom : e.rom = some rom) :
    d.finish = .ok
      { rom := rom
        clockHz := e.clockHz.getD Config.defaultClockHz
        mute := .mute ∈ e.switches
        paused := .paused ∈ e.switches
        seed := e.seed
        cycles := e.cycles.getD 0
        trace := .trace ∈ e.switches } := by
  simp [finish, h, hrom, bind, Except.bind]

end Draft

end CommandLine

/-! ## Reading the parts -/

open CommandLine

namespace Config

variable {c : Config} {seen line : List Part} {d : Draft}

/-- What is known of some settings after some parts of a line, the last one first, once the last
word has been examined. -/
def afterParts (c : Config) (seen : List Part) : Draft where
  rom := if none ∈ seen.map Part.subject then some c.rom else none
  clockHz := if some (.setting .clockHz) ∈ seen.map Part.subject then some c.clockHz else none
  seed := if some (.setting .seed) ∈ seen.map Part.subject then c.seed else none
  cycles := if some (.setting .cycles) ∈ seen.map Part.subject then some c.cycles else none
  switches := seen.filterMap Part.switch?
  unexamined := none
  namesOnly := false

/-- A draft has read some parts of a line for the settings, the last one first. The last word may
still wait to be examined. -/
structure HasRead (c : Config) (seen : List Part) (d : Draft) : Prop where
  settled : d.settle = .ok (c.afterParts seen)
  names : d.namesOnly = false

theorem hasRead_afterParts (c : Config) (seen : List Part) : c.HasRead seen (c.afterParts seen) :=
  ⟨rfl, rfl⟩

theorem hasRead_start (c : Config) : c.HasRead [] Draft.start := ⟨rfl, rfl⟩

/-- A switch is on after some parts if one of them turns it on. -/
theorem mem_switches_iff {s : Switch} :
    s ∈ seen.filterMap Part.switch? ↔ some (.switch s) ∈ seen.map Part.subject := by
  rw [List.mem_filterMap, List.mem_map]
  apply exists_congr
  intro p
  cases p <;> simp

/-- A value that has not been given is taken as the settings have it. -/
theorem assign_afterParts {s : Setting} {text : String} {joined : Bool}
    (hruns : 1 ≤ c.clockHz.toNat) (htold : c.IsTold (.setting s text joined))
    (hnew : some (.setting s) ∉ seen.map Part.subject) :
    (c.afterParts seen).assign s text = .ok (c.afterParts (.setting s text joined :: seen)) := by
  obtain ⟨n, hn, htext⟩ := htold
  cases s with
  | clockHz =>
    obtain rfl : c.clockHz.toNat = n := Option.some.inj hn
    rw [Draft.assign_clockHz (if_neg hnew) htext hruns]
    simp [afterParts, List.filterMap_cons]
  | seed =>
    obtain ⟨v, hv, rfl⟩ : ∃ v, c.seed = some v ∧ v.toNat = n := by simpa [value?] using hn
    rw [Draft.assign_seed (if_neg hnew) htext]
    simp [afterParts, List.filterMap_cons, hv]
  | cycles =>
    obtain rfl : c.cycles.toNat = n := Option.some.inj hn
    rw [Draft.assign_cycles (if_neg hnew) htext]
    simp [afterParts, List.filterMap_cons]

/-- The name of the program. It is examined with the word after it. -/
theorem HasRead.program (h : c.HasRead seen d) (hc : c.IsWritable)
    (hnew : none ∉ seen.map Part.subject) :
    ∃ e, d.word c.rom = .ok e ∧ c.HasRead (.program c.rom :: seen) e := by
  have hname : d.hasName = false := by
    rw [Draft.hasName_of_settle h.settled, afterParts, if_neg hnew]
    rfl
  refine ⟨{ c.afterParts seen with unexamined := some (.name c.rom) }, ?_, ?_, rfl⟩
  · rw [Draft.word_of_plain h.names (form_of_undashed hc.undashed) h.settled, Draft.name, hname,
      h.settled]
    rfl
  · rw [Draft.settle_of_name rfl hc.named]
    simp [afterParts, List.filterMap_cons]

/-- An option with its value in a word of its own. The value is examined with the word after it. -/
theorem HasRead.setting {s : Setting} {text : String} (h : c.HasRead seen d) (hc : c.IsWritable)
    (htold : c.IsTold (.setting s text false)) (hnew : some (.setting s) ∉ seen.map Part.subject) :
    ∃ e, ["--" ++ spelling (.setting s), text].foldlM Draft.word d = .ok e ∧
      c.HasRead (.setting s text false :: seen) e := by
  have hform : form text = .plain := by
    obtain ⟨_, _, htext⟩ := htold
    exact htext.form_eq
  refine ⟨{ c.afterParts seen with unexamined := some (.setting s (some text)) }, ?_, ?_, rfl⟩
  · have hoption : d.word ("--" ++ spelling (.setting s)) =
        .ok { c.afterParts seen with unexamined := some (.setting s none) } := by
      rw [Draft.word_spelling h.names, Draft.option, h.settled]
      rfl
    rw [List.foldlM_cons, hoption]
    change [text].foldlM Draft.word _ = _
    rw [List.foldlM_cons, Draft.word_of_awaited rfl hform rfl]
    rfl
  · exact assign_afterParts hc.runs htold hnew

/-- An option with its value after an equals sign. -/
theorem HasRead.joined {s : Setting} {text : String} (h : c.HasRead seen d) (hc : c.IsWritable)
    (htold : c.IsTold (.setting s text true)) (hnew : some (.setting s) ∉ seen.map Part.subject) :
    ∃ e, d.word ("--" ++ spelling (.setting s) ++ "=" ++ text) = .ok e ∧
      c.HasRead (.setting s text true :: seen) e := by
  refine ⟨c.afterParts (.setting s text true :: seen), ?_, c.hasRead_afterParts _⟩
  rw [Draft.word_spelling_joined h.names, Draft.option, h.settled]
  exact assign_afterParts hc.runs htold hnew

/-- An option without a value. -/
theorem HasRead.switch {s : Switch} (h : c.HasRead seen d)
    (hnew : some (.switch s) ∉ seen.map Part.subject) :
    ∃ e, d.word ("--" ++ spelling (.switch s)) = .ok e ∧ c.HasRead (.switch s :: seen) e := by
  refine ⟨c.afterParts (.switch s :: seen), ?_, c.hasRead_afterParts _⟩
  have hoff : s ∉ (c.afterParts seen).switches := mt mem_switches_iff.mp hnew
  have hon : (c.afterParts seen).turnOn s = .ok (c.afterParts (.switch s :: seen)) := by
    rw [Draft.turnOn, if_neg hoff]
    simp [afterParts]
  rw [Draft.word_spelling h.names, Draft.option, h.settled]
  exact hon

/-- The words of a part that has not been read yet. -/
theorem HasRead.words {p : Part} (h : c.HasRead seen d) (hc : c.IsWritable) (htold : c.IsTold p)
    (hnew : p.subject ∉ seen.map Part.subject) :
    ∃ e, p.words.foldlM Draft.word d = .ok e ∧ c.HasRead (p :: seen) e := by
  rcases p with word | ⟨s, text, _ | _⟩ | s
  · obtain rfl : word = c.rom := htold
    simpa [Part.words] using h.program hc hnew
  · exact h.setting hc htold hnew
  · simpa [Part.words] using h.joined hc htold hnew
  · simpa [Part.words] using h.switch hnew

/-- The words of some parts. -/
theorem HasRead.flatMap_words (h : c.HasRead seen d) (hc : c.IsWritable)
    (htold : ∀ p ∈ line, c.IsTold p)
    (honce : ((line.reverse ++ seen).map Part.subject).Nodup) :
    ∃ e, (line.flatMap Part.words).foldlM Draft.word d = .ok e ∧
      c.HasRead (line.reverse ++ seen) e := by
  induction line generalizing seen d with
  | nil => exact ⟨d, rfl, h⟩
  | cons p line ih =>
    -- The first part joins those that have been read, and the subjects stay apart.
    have honce' : ((line.reverse ++ p :: seen).map Part.subject).Nodup := by
      simpa using honce
    have hnew : p.subject ∉ seen.map Part.subject := by
      rw [List.map_append, List.map_cons] at honce'
      exact (List.nodup_cons.mp (List.nodup_append.mp honce').2.1).1
    obtain ⟨e, he, hread⟩ := h.words hc (htold p List.mem_cons_self) hnew
    obtain ⟨e', he', hread'⟩ := ih hread (fun q hq => htold q (List.mem_cons_of_mem p hq)) honce'
    refine ⟨e', ?_, by simpa using hread'⟩
    rw [List.flatMap_cons, List.foldlM_append, he]
    exact he'

/-- A line that spells out some settings has a part for each switch that is on. -/
theorem IsSpelled.mem_subjects_iff (h : c.IsSpelled line) (s : Switch) :
    some (.switch s) ∈ line.map Part.subject ↔ c.isOn s := by
  constructor
  · intro hmem
    obtain ⟨p, hp, hsubject⟩ := List.mem_map.mp hmem
    have htold := h.told p hp
    cases p with
    | program => contradiction
    | setting => simp at hsubject
    | switch s' =>
      obtain rfl : s' = s := by simpa using hsubject
      exact htold
  · intro hon
    by_contra habsent
    rw [h.isOn s habsent] at hon
    cases s <;> contradiction

/-- What a whole line leaves out is as usual, so what is known after it are the settings. -/
theorem HasRead.finish (hread : c.HasRead line.reverse d) (h : c.IsSpelled line) :
    d.finish = .ok c := by
  have hmem (o : Option OptionName) :
      o ∈ line.reverse.map Part.subject ↔ o ∈ line.map Part.subject := by
    rw [List.map_reverse, List.mem_reverse]
  have hrom : (c.afterParts line.reverse).rom = some c.rom := if_pos ((hmem _).mpr h.program)
  have hclock : (c.afterParts line.reverse).clockHz.getD defaultClockHz = c.clockHz := by
    simp only [afterParts, hmem]
    split
    · rfl
    · next habsent =>
      have hvalue := Option.some.inj (h.value .clockHz habsent)
      exact (UInt32.toNat_inj.mp hvalue).symm
  have hseed : (c.afterParts line.reverse).seed = c.seed := by
    simp only [afterParts, hmem]
    split
    · rfl
    · next habsent => exact (Option.map_eq_none_iff.mp (h.value .seed habsent)).symm
  have hcycles : (c.afterParts line.reverse).cycles.getD 0 = c.cycles := by
    simp only [afterParts, hmem]
    split
    · rfl
    · next habsent =>
      have hvalue := Option.some.inj (h.value .cycles habsent)
      exact (UInt64.toNat_inj.mp hvalue).symm
  have hswitch (s : Switch) : decide (s ∈ (c.afterParts line.reverse).switches) = c.isOn s := by
    rw [Bool.eq_iff_iff, decide_eq_true_iff, afterParts, mem_switches_iff, hmem]
    exact h.mem_subjects_iff s
  rw [Draft.finish_of_settle hread.settled hrom, hclock, hseed, hcycles, hswitch, hswitch, hswitch]
  rfl

/-- The words of a line that spells out some settings are read as these settings. -/
theorem parse_flatMap_words (hc : c.IsWritable) (h : c.IsSpelled line) :
    parse (line.flatMap Part.words) = .ok c := by
  have honce : ((line.reverse ++ []).map Part.subject).Nodup := by
    rw [List.append_nil, List.map_reverse, List.nodup_reverse]
    exact h.once
  obtain ⟨d, hd, hread⟩ := (hasRead_start c).flatMap_words hc h.told honce
  rw [List.append_nil] at hread
  rw [parse, hd]
  exact hread.finish h

/-! ## Lines for the same settings -/

/-- The parts of a line may stand in any order. -/
theorem IsSpelled.perm {line' : List Part} (h : c.IsSpelled line) (hperm : line.Perm line') :
    c.IsSpelled line' := by
  have hsubjects := hperm.map Part.subject
  constructor
  · intro p hp
    exact h.told p (hperm.mem_iff.mpr hp)
  · exact hsubjects.nodup_iff.mp h.once
  · exact hsubjects.mem_iff.mp h.program
  · intro s habsent
    exact h.value s (mt hsubjects.mem_iff.mp habsent)
  · intro s habsent
    exact h.isOn s (mt hsubjects.mem_iff.mp habsent)

/-- The order of the parts makes no difference. -/
theorem parse_perm {line' : List Part} (hc : c.IsWritable) (h : c.IsSpelled line)
    (hperm : line.Perm line') :
    parse (line'.flatMap Part.words) = parse (line.flatMap Part.words) := by
  rw [parse_flatMap_words hc h, parse_flatMap_words hc (h.perm hperm)]

/-! ## Settings in full -/

/-- A line that leaves nothing out but a seed that is not there. -/
def inFull (c : Config) : List Part :=
  .program c.rom ::
    ([Setting.clockHz, .seed, .cycles].filterMap fun s =>
      (c.value? s).map fun n => .setting s (String.ofList (Nat.toDigits 10 n)) false) ++
    ([Switch.mute, .paused, .trace].filter c.isOn).map .switch

theorem mem_inFull_iff {p : Part} :
    p ∈ c.inFull ↔ p = .program c.rom ∨
      (∃ s n, c.value? s = some n ∧ p = .setting s (String.ofList (Nat.toDigits 10 n)) false) ∨
      ∃ s, c.isOn s ∧ p = .switch s := by
  have hsettings (s : Setting) : s ∈ [Setting.clockHz, .seed, .cycles] := by cases s <;> decide
  have hswitches (s : Switch) : s ∈ [Switch.mute, .paused, .trace] := by cases s <;> decide
  simp only [inFull, List.mem_append, List.mem_cons, List.mem_filterMap, List.mem_map,
    List.mem_filter, Option.map_eq_some_iff, hsettings, hswitches, true_and, eq_comm (b := p),
    or_assoc]

theorem isSpelled_inFull (c : Config) : c.IsSpelled c.inFull := by
  constructor
  · intro p hp
    rcases mem_inFull_iff.mp hp with rfl | ⟨s, n, hn, rfl⟩ | ⟨s, hs, rfl⟩
    · rfl
    · exact ⟨n, hn, isNumeral_toDigits n⟩
    · exact hs
  · have hsub : (c.inFull.map Part.subject).Sublist
        ([none, some (.setting .clockHz), some (.setting .seed), some (.setting .cycles)] ++
          [Switch.mute, .paused, .trace].map fun s => some (.switch s)) := by
      rw [inFull, List.map_append, List.map_map]
      apply List.Sublist.append
      · cases hseed : c.seed <;> simp [value?, hseed]
      · exact List.filter_sublist.map _
    exact hsub.nodup (by decide)
  · exact List.mem_map.mpr ⟨_, mem_inFull_iff.mpr (.inl rfl), rfl⟩
  · intro s habsent
    have hnone : c.value? s = none := by
      apply Option.eq_none_iff_forall_ne_some.mpr
      intro n hn
      apply habsent
      exact List.mem_map.mpr ⟨_, mem_inFull_iff.mpr (.inr (.inl ⟨s, n, hn, rfl⟩)), rfl⟩
    cases s with
    | seed => exact hnone
    | clockHz => contradiction
    | cycles => contradiction
  · intro s habsent
    have hoff : c.isOn s = false := by
      apply Bool.eq_false_iff.mpr
      intro hs
      apply habsent
      exact List.mem_map.mpr ⟨_, mem_inFull_iff.mpr (.inr (.inr ⟨s, hs, rfl⟩)), rfl⟩
    rw [hoff]
    cases s <;> rfl

theorem exists_isSpelled (c : Config) : ∃ line, c.IsSpelled line := ⟨c.inFull, c.isSpelled_inFull⟩

/-- All settings that can be written down are read from some line. -/
theorem exists_parse_eq (hc : c.IsWritable) : ∃ words, parse words = .ok c := by
  obtain ⟨line, hline⟩ := c.exists_isSpelled
  exact ⟨line.flatMap Part.words, parse_flatMap_words hc hline⟩

end Config

namespace CommandLine

/-! ## The clock of a line that can be read -/

theorem exists_of_bind {α β ε : Type} {x : Except ε α} {f : α → Except ε β} {b : β}
    (h : x >>= f = .ok b) : ∃ a, x = .ok a ∧ f a = .ok b := by
  cases x with
  | error _ => contradiction
  | ok a => exact ⟨a, rfl, h⟩

namespace Draft

variable {d e : Draft} {s : Setting} {text : String}

/-- A clock that has been read runs. -/
def ClockRuns (d : Draft) : Prop := ∀ v ∈ d.clockHz, 1 ≤ v.toNat

theorem ClockRuns.assign (hd : d.ClockRuns) (h : d.assign s text = .ok e) : e.ClockRuns := by
  rcases of_assign h with ⟨v, hv, rfl⟩ | ⟨v, rfl⟩ | ⟨v, rfl⟩
  · intro v' hv'
    obtain rfl : v = v' := Option.some.inj hv'
    exact hv
  · exact hd
  · exact hd

theorem ClockRuns.turnOn {s : Switch} (hd : d.ClockRuns) (h : d.turnOn s = .ok e) :
    e.ClockRuns := by
  unfold Draft.turnOn at h
  split at h
  · contradiction
  · cases h
    exact hd

theorem ClockRuns.settle (hd : d.ClockRuns) (h : d.settle = .ok e) : e.ClockRuns := by
  unfold Draft.settle at h
  split at h
  · cases h
    exact hd
  · contradiction
  · exact ClockRuns.assign (d := { d with unexamined := none }) hd h
  · contradiction
  · cases h
    exact hd

theorem ClockRuns.name {word : String} (hd : d.ClockRuns) (h : d.name word = .ok e) :
    e.ClockRuns := by
  unfold Draft.name at h
  split at h
  · contradiction
  · obtain ⟨d', hsettle, hnext⟩ := exists_of_bind h
    have hd' := hd.settle hsettle
    cases hnext
    exact hd'

theorem ClockRuns.option {o : OptionName} {value : Option String} (hd : d.ClockRuns)
    (h : d.option o value = .ok e) : e.ClockRuns := by
  unfold Draft.option at h
  split at h
  · obtain ⟨d', hsettle, hassign⟩ := exists_of_bind h
    exact (hd.settle hsettle).assign hassign
  · obtain ⟨d', hsettle, hnext⟩ := exists_of_bind h
    have hd' := hd.settle hsettle
    cases hnext
    exact hd'
  · contradiction
  · obtain ⟨d', hsettle, hturn⟩ := exists_of_bind h
    exact (hd.settle hsettle).turnOn hturn
  · contradiction
  · obtain ⟨d', hsettle, hhelp⟩ := exists_of_bind h
    contradiction

theorem ClockRuns.word {word : String} (hd : d.ClockRuns) (h : d.word word = .ok e) :
    e.ClockRuns := by
  unfold Draft.word at h
  split at h
  · exact hd.name h
  split at h
  · cases h
    exact hd
  · split at h
    · exact hd.option h
    · contradiction
  · split at h
    · exact hd.option h
    · contradiction
  · split at h
    · cases h
      exact hd
    · exact hd.name h

/-- No line, however long, is read with a clock that stands still. -/
theorem ClockRuns.words {words : List String} (hd : d.ClockRuns)
    (h : words.foldlM Draft.word d = .ok e) : e.ClockRuns := by
  induction words generalizing d with
  | nil =>
    cases h
    exact hd
  | cons w words ih =>
    rw [List.foldlM_cons] at h
    obtain ⟨d', hword, hwords⟩ := exists_of_bind h
    exact ih (hd.word hword) hwords

theorem clockRuns_start : start.ClockRuns := by
  intro v hv
  contradiction

theorem ClockRuns.finish {c : Config} (hd : d.ClockRuns) (h : d.finish = .ok c) :
    1 ≤ c.clockHz.toNat := by
  unfold Draft.finish at h
  obtain ⟨d', hsettle, hc⟩ := exists_of_bind h
  have hd' := hd.settle hsettle
  split at hc
  · contradiction
  cases hc
  change 1 ≤ (d'.clockHz.getD Config.defaultClockHz).toNat
  cases hclock : d'.clockHz with
  | none => decide
  | some v => exact hd' v hclock

end Draft

end CommandLine

namespace Config

theorem one_le_clockHz_of_parse {words : List String} {c : Config} (h : parse words = .ok c) :
    1 ≤ c.clockHz.toNat := by
  obtain ⟨d, hwords, hfinish⟩ := exists_of_bind h
  exact (Draft.clockRuns_start.words hwords).finish hfinish

/-- The time for one instruction is the greatest whole number of nanoseconds that leaves room for
all instructions of a second. -/
theorem cyclePeriod_bounds (c : Config) (hruns : 1 ≤ c.clockHz.toNat) :
    c.cyclePeriod * c.clockHz.toNat ≤ 10 ^ 9 ∧ 10 ^ 9 < (c.cyclePeriod + 1) * c.clockHz.toNat := by
  constructor
  · exact Nat.div_mul_le_self _ _
  · rw [Nat.mul_comm]
    exact Nat.lt_mul_div_succ _ hruns

/-- Settings that are spelled out on a command line, in any order, with or without what is as usual
and with each value after an equals sign or in a word of its own, are read as just these settings.
Whatever line is read, its clock runs, and the time for one instruction is that of the clock rounded
down. -/
theorem parse_roundTrip :
    (∀ (c : Config) (line : List Part), c.IsWritable → c.IsSpelled line →
      parse (line.flatMap Part.words) = .ok c) ∧
    ∀ (words : List String) (c : Config), parse words = .ok c →
      1 ≤ c.clockHz.toNat ∧ c.cyclePeriod * c.clockHz.toNat ≤ 10 ^ 9 ∧
        10 ^ 9 < (c.cyclePeriod + 1) * c.clockHz.toNat := by
  constructor
  · intro c line hc h
    exact parse_flatMap_words hc h
  · intro words c h
    have hruns := one_le_clockHz_of_parse h
    exact ⟨hruns, c.cyclePeriod_bounds hruns⟩

/-- Settings that leave only the pause and the limit of instructions as usual. -/
def unusual : Config := ⟨"pong.ch8", 300, true, false, some 18446744073709551615, 0, true⟩

theorem parse_roundTrip_atUnusual :
    parse ["--trace", "--clock-hz=0300", "pong.ch8", "--seed", "18446744073709551615", "--mute"] =
        .ok unusual ∧
      unusual.cyclePeriod * 300 ≤ 10 ^ 9 ∧ 10 ^ 9 < (unusual.cyclePeriod + 1) * 300 := by
  have hclock : IsNumeral "0300" 300 :=
    ⟨by decide, List.all_eq_true.mp (by decide), by decide⟩
  have hseed : IsNumeral "18446744073709551615" 18446744073709551615 :=
    ⟨by decide, List.all_eq_true.mp (by decide), by decide⟩
  have hwritable : unusual.IsWritable := ⟨by decide, by decide, by decide⟩
  have hspelled : unusual.IsSpelled [.switch .trace, .setting .clockHz "0300" true,
      .program "pong.ch8", .setting .seed "18446744073709551615" false, .switch .mute] := by
    constructor
    · simp only [List.forall_mem_cons, IsTold]
      exact ⟨rfl, ⟨300, rfl, hclock⟩, rfl, ⟨18446744073709551615, rfl, hseed⟩, rfl, by simp⟩
    · decide
    · decide
    · intro s habsent
      cases s with
      | cycles => rfl
      | clockHz => exact absurd (by decide) habsent
      | seed => exact absurd (by decide) habsent
    · intro s habsent
      cases s with
      | paused => rfl
      | mute => exact absurd (by decide) habsent
      | trace => exact absurd (by decide) habsent
  have hparse := parse_roundTrip.1 unusual _ hwritable hspelled
  exact ⟨hparse, (parse_roundTrip.2 _ unusual hparse).2⟩

end Config

end Chip8
