/-!
# Sets of characters

A set of characters is given by the code points at which membership changes, in ascending order: the
first one enters the set, the next one leaves it, and so on.
-/

namespace Chip8

/-- The code points at which membership in a set of characters changes. -/
structure CharacterSet where
  edges : Array Nat

namespace CharacterSet

/-- A code point is in the set if an odd number of edges are at or below it. -/
def contains (s : CharacterSet) (c : Char) : Bool :=
  s.edges.countP (fun edge => edge <= c.toNat) % 2 == 1

end CharacterSet

end Chip8
