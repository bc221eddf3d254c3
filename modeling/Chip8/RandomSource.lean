import Chip8.Word

/-!
# The random source

Random bytes come from a stream of words that a key determines: the words of a ChaCha keystream with
twelve rounds. The key has eight words, which may be chosen freely or drawn from a 64-bit seed.
`word` is the stream as a function of the position; a source is a key and the number of words
already taken.
-/

namespace Chip8

/-- A stream of random words and how far it has been read. -/
structure RandomSource where
  key : Vector UInt32 8
  taken : Nat
  deriving DecidableEq, Repr

namespace RandomSource

/-- The words of a block of the keystream, and of the state it is computed from. -/
abbrev Block := Vector UInt32 16

/-- A word rotated to the left by `n` places, for `n` from 1 to 31. -/
def rotateLeft (a n : UInt32) : UInt32 := (a <<< n) ||| (a >>> (32 - n))

/-- A word rotated to the right by `n` places, for `n` below 32. -/
def rotateRight (a n : UInt32) : UInt32 := (a >>> n) ||| (a <<< ((32 - n) % 32))

/-- The next value of the generator that spreads the seed over the key. -/
def spreadStep (s : UInt64) : UInt64 := s * 6364136223846793005 + 11634580027462260723

/-- The key word of a value of that generator: its middle bits, rotated by its top bits. -/
def spreadWord (s : UInt64) : UInt32 :=
  rotateRight (((s >>> 18) ^^^ s) >>> 27).toUInt32 (s >>> 59).toUInt32

/-- The key of a seed: the key words of the eight values of the generator that follow it. -/
def spread (seed : UInt64) : Vector UInt32 8 :=
  Vector.ofFn fun i => spreadWord (Nat.repeat spreadStep (i.val + 1) seed)

/-- Add the word at place `j` to the one at place `i`, then combine the one at place `l` with the
sum and rotate it to the left by `n` places. -/
def mix (b : Block) (i j l : Nat) (n : UInt32) : Block :=
  let b := b.setIfInBounds i (b.getD i 0 + b.getD j 0)
  b.setIfInBounds l (rotateLeft (b.getD l 0 ^^^ b.getD i 0) n)

/-- The mixing of four words of the state, given by their places. -/
def quarterRound (b : Block) (i j k l : Nat) : Block :=
  let b := mix b i j l 16
  let b := mix b k l j 12
  let b := mix b i j l 8
  mix b k l j 7

/-- A round on the columns of the state and one on its diagonals. -/
def doubleRound (b : Block) : Block :=
  let b := quarterRound b 0 4 8 12
  let b := quarterRound b 1 5 9 13
  let b := quarterRound b 2 6 10 14
  let b := quarterRound b 3 7 11 15
  let b := quarterRound b 0 5 10 15
  let b := quarterRound b 1 6 11 12
  let b := quarterRound b 2 7 8 13
  quarterRound b 3 4 9 14

/-- The state for a block: four constants, the key, and the number of the block in two words. -/
def blockState (key : Vector UInt32 8) (number : Nat) : Block :=
  (#v[0x61707865, 0x3320646E, 0x79622D32, 0x6B206574] : Vector UInt32 4) ++ key ++
    (#v[UInt32.ofNat number, UInt32.ofNat (number / 4294967296), 0, 0] : Vector UInt32 4)

/-- The words of a block: six double rounds, added to the state they started from. -/
def block (key : Vector UInt32 8) (number : Nat) : Block :=
  let start := blockState key number
  let mixed := (List.range 6).foldl (fun b _ => doubleRound b) start
  Vector.zipWith (· + ·) mixed start

/-- The word of the stream of a key at a position. -/
def word (key : Vector UInt32 8) (position : Nat) : UInt32 :=
  (block key (position / 16)).get ⟨position % 16, by omega⟩

/-- The byte that a draw at a position gives: the low bits of the word there. -/
def byteAt (key : Vector UInt32 8) (position : Nat) : Byte :=
  BitVec.ofNat 8 (word key position).toNat

/-- The source at the start of the stream of a seed. -/
def ofSeed (seed : UInt64) : RandomSource := ⟨spread seed, 0⟩

/-- Draw a byte. -/
def next (r : RandomSource) : Byte × RandomSource :=
  (byteAt r.key r.taken, ⟨r.key, r.taken + 1⟩)

end RandomSource

end Chip8
