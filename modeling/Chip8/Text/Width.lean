import Chip8.Text.Cluster

/-!
# The width of a text

How many cells of a terminal a character or a cluster takes up. Most characters take up one cell,
those of East Asian scripts and most pictures two. Marks, control characters and characters of which
nothing is seen take up none.
-/

namespace Chip8.Width

/-- Characters that take up no cell for reasons of their own: signs that enclose the digits after
them, a caret, and vowels that are two marks. -/
def unspaced : List Nat :=
  [0x605, 0x70F, 0x890, 0x891, 0x8E2, 0xA8FA, 0xCC0, 0xCC7, 0xCC8, 0xCCA, 0xCCB, 0x1B3B, 0x1B3D,
    0x1B43]

/-- Whether a character beyond the first ones takes up no cell. -/
def isUnseen (c : Char) : Bool :=
  Property.combining.contains c || Property.ignorable.contains c || Cluster.isVowelSign c ||
    Cluster.isTrailingSign c || unspaced.contains c.toNat

/-- The number of cells that a character takes up. -/
def ofChar (c : Char) : Nat :=
  let n := c.toNat
  if n < 0x20 then 0
  else if n < 0x7F then 1
  else if n < 0xA0 then 0
  else if n = 0x115F ∨ n = 0x17A4 then 2
  else if n = 0x17D8 then 3
  else if n = 0x2D7F then 1
  else if isUnseen c then 0
  else if Property.wide.contains c then 2
  else 1

/-- The sign that asks for a picture instead of a letter. -/
def pictureSelector : Char := Char.ofNat 0xFE0F

/-- Whether a character and those after it in its cluster are one picture. -/
def isPicture (first : Char) (following : List Char) : Bool :=
  (Property.pictureWithSelector.contains first && following.head? == some pictureSelector) ||
    (Property.pictograph.contains first &&
      following.any fun c => Cluster.isSkinTone c || Property.pictograph.contains c)

/-- The number of cells that a cluster takes up: two for a picture, or what its characters take
up. -/
def ofCluster : Cluster → Nat
  | [] => 0
  | first :: following =>
    if isPicture first following then 2
    else following.foldl (fun total c => total + ofChar c) (ofChar first)

/-- A visible character of the basic alphabet takes up one cell. -/
theorem ofChar_of_ascii {c : Char} (low : 0x20 ≤ c.toNat) (high : c.toNat < 0x7F) :
    ofChar c = 1 := by
  grind [ofChar]

end Chip8.Width
