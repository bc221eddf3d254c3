/-!
# Durations

A duration is shown in the largest of the units second, millisecond, microsecond and nanosecond in
which it is at least one, with as many decimals as it needs.
-/

namespace Chip8.Duration

/-- The last `places` decimal digits of `n`, the most significant first. -/
def lowDigits : (places : Nat) → (n : Nat) → List Char
  | 0, _ => []
  | places + 1, n => lowDigits places (n / 10) ++ [Nat.digitChar (n % 10)]

/-- A point and the given fraction digits without trailing zeros, or nothing if all are zero. -/
def fraction (digits : List Char) : String :=
  match (digits.reverse.dropWhile (· == '0')).reverse with
  | [] => ""
  | significant => "." ++ String.ofList significant

/-- A number of nanoseconds in a unit of ten to the power `places` nanoseconds. -/
def inUnit (nanoseconds places : Nat) (unit : String) : String :=
  toString (nanoseconds / Nat.pow 10 places) ++ fraction (lowDigits places nanoseconds) ++ unit

/-- The text of a number of nanoseconds. -/
def text (nanoseconds : Nat) : String :=
  if 1000000000 ≤ nanoseconds then inUnit nanoseconds 9 "s"
  else if 1000000 ≤ nanoseconds then inUnit nanoseconds 6 "ms"
  else if 1000 ≤ nanoseconds then inUnit nanoseconds 3 "µs"
  else inUnit nanoseconds 0 "ns"

end Chip8.Duration
