import Chip8.Text.Property

/-!
# Clusters

A cluster is what a reader takes for one character: a letter with its marks, a syllable, a flag, or
a picture put together from pictures. `clusters` divides a line of text into clusters; nothing is
lost and no cluster is empty.
-/

namespace Chip8

/-- The characters of a cluster. -/
abbrev Cluster := List Char

namespace Cluster

/-- The sign that joins pictures and letters. -/
def joiner : Char := Char.ofNat 0x200D

/-- The sign that keeps letters apart. -/
def nonJoiner : Char := Char.ofNat 0x200C

/-- Whether a character gives a picture the colour of a skin. -/
def isSkinTone (c : Char) : Bool := 0x1F3FB <= c.toNat && c.toNat <= 0x1F3FF

/-- Whether a character is one half of a flag. -/
def isFlagHalf (c : Char) : Bool := 0x1F1E6 <= c.toNat && c.toNat <= 0x1F1FF

/-- Whether a character is a sign for the consonants at the start of a syllable. -/
def isLeadingSign (c : Char) : Bool :=
  let n := c.toNat
  (0x1100 <= n && n <= 0x115F) || (0xA960 <= n && n <= 0xA97C)

/-- Whether a character is a sign for the vowel of a syllable. -/
def isVowelSign (c : Char) : Bool :=
  let n := c.toNat
  (0x1160 <= n && n <= 0x11A7) || (0xD7B0 <= n && n <= 0xD7C6) || n == 0x16D63 ||
    (0x16D67 <= n && n <= 0x16D6A)

/-- Whether a character is a sign for the consonants at the end of a syllable. -/
def isTrailingSign (c : Char) : Bool :=
  let n := c.toNat
  (0x11A8 <= n && n <= 0x11FF) || (0xD7CB <= n && n <= 0xD7FB)

/-- Whether a character is a whole syllable. -/
def isSyllable (c : Char) : Bool := 0xAC00 <= c.toNat && c.toNat <= 0xD7A3

/-- Whether a character is a whole syllable without consonants at its end. -/
def isOpenSyllable (c : Char) : Bool := isSyllable c && (c.toNat - 0xAC00) % 28 == 0

/-- Whether two characters that follow each other are parts of one syllable. -/
def joinsSyllable (last c : Char) : Bool :=
  (isLeadingSign last && (isLeadingSign c || isVowelSign c || isSyllable c)) ||
    ((isVowelSign last || isOpenSyllable last) && (isVowelSign c || isTrailingSign c)) ||
    ((isTrailingSign last || isSyllable last) && isTrailingSign c)

/-- Whether a character is written on the one before it. -/
def isMark (c : Char) : Bool := Property.combining.contains c || isSkinTone c

/-- Whether a character belongs to whatever is before it. -/
def isAttached (c : Char) : Bool := isMark c || c == joiner || Property.spacing.contains c

/-- Whether a consonant is joined to one at the end of the characters before it, the last one first:
between the two there are marks only, and a linker is among them. -/
def joinsConsonant (before : List Char) (c : Char) : Bool :=
  let isBetween (d : Char) : Bool := (isMark d || d == joiner) && d != nonJoiner
  Property.consonant.contains c &&
    (before.takeWhile isBetween).any Property.linker.contains &&
    (before.dropWhile isBetween).head?.any Property.consonant.contains

/-- Whether a picture is joined to one at the end of the characters before it, the last one
first. -/
def joinsPicture (before : List Char) (c : Char) : Bool :=
  Property.pictograph.contains c && before.head? == some joiner &&
    (before.tail.dropWhile isMark).head?.any Property.pictograph.contains

/-- Whether a character completes the flag that the characters before it, the last one first, end
with. -/
def joinsFlag (before : List Char) (c : Char) : Bool :=
  isFlagHalf c && (before.takeWhile isFlagHalf).length % 2 == 1

/-- Whether a character belongs to the cluster of the characters before it, the last one first. -/
def joins (before : List Char) (c : Char) : Bool :=
  match before with
  | [] => false
  | last :: _ =>
    !Property.control.contains last && !Property.control.contains c &&
      (isAttached c || Property.prepended.contains last || joinsSyllable last c ||
        joinsConsonant before c || joinsPicture before c || joinsFlag before c)

/-- The clusters of a text after the characters of an unfinished cluster, the last one first. -/
def gather : (before : List Char) → List Char → List Cluster
  | [], [] => []
  | before, [] => [before.reverse]
  | before, c :: rest =>
    if before.isEmpty || joins before c then gather (c :: before) rest
    else before.reverse :: gather [c] rest

/-- The clusters of a line of text. -/
def clusters (line : List Char) : List Cluster := gather [] line

theorem flatten_gather (before text : List Char) :
    (gather before text).flatten = before.reverse ++ text := by
  fun_induction gather before text <;> simp_all

/-- Nothing is lost. -/
theorem flatten_clusters (line : List Char) : (clusters line).flatten = line :=
  flatten_gather [] line

theorem ne_nil_of_mem_gather {before text : List Char} {cluster : Cluster}
    (h : cluster ∈ gather before text) : cluster ≠ [] := by
  fun_induction gather before text <;> grind [List.reverse_eq_nil_iff, List.isEmpty_iff]

/-- No cluster is empty. -/
theorem ne_nil_of_mem_clusters {line : List Char} {cluster : Cluster}
    (h : cluster ∈ clusters line) : cluster ≠ [] :=
  ne_nil_of_mem_gather h

end Cluster

end Chip8
