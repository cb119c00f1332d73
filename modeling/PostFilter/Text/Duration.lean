import PostFilter.Text.Numeral

/-!
# Text — lengths of time

A length of time is a number of nanoseconds. It is written in the greatest of the units seconds,
milliseconds, microseconds and nanoseconds that it reaches, with as many decimals as it needs.
-/

namespace PostFilter.Text

/-- Exactly `width` decimal digits of a number, zeros in front. -/
def fixedDigits : (width n : Nat) → List Char
  | 0, _ => []
  | width + 1, n => fixedDigits width (n / 10) ++ [digitChar (n % 10)]

/-- Decimals without the zeros at their end; a point stands before them if there are any. -/
def decimals (width n : Nat) : List Char :=
  match ((fixedDigits width n).reverse.dropWhile (· == '0')).reverse with
  | [] => []
  | digits => '.' :: digits

/-- A number of nanoseconds in a unit of `10 ^ width` nanoseconds. -/
def inUnit (width n : Nat) (unit : String) : String :=
  let whole := n / Nat.pow 10 width
  String.ofList (decimalDigits whole ++ decimals width (n % Nat.pow 10 width)) ++ unit

/-- A length of time in its greatest unit. -/
def duration (nanoseconds : Nat) : String :=
  if 1000000000 ≤ nanoseconds then inUnit 9 nanoseconds "s"
  else if 1000000 ≤ nanoseconds then inUnit 6 nanoseconds "ms"
  else if 1000 ≤ nanoseconds then inUnit 3 nanoseconds "µs"
  else inUnit 0 nanoseconds "ns"

end PostFilter.Text
