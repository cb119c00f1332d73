import PostFilter.Text.Numeral

/-!
# Decimal — the shortest numeral that reads back

A floating-point number stands for every real number that rounds to it. `Binary.shortest` finds the
decimal numeral with the fewest digits among these, and of several the one nearest to the number
itself. Grids of powers of ten are tried from coarse to fine; on each only the two neighbours of the
number matter, because if any point of the grid rounds to the number, one of these two does.

All of this is arithmetic on natural numbers.
-/

namespace PostFilter

/-- The number `mantissa * 2 ^ exponent`. -/
structure Binary where
  mantissa : Nat
  exponent : Int
  /-- Whether the next smaller number is only half as far away as the next greater one. -/
  atBoundary : Bool
  deriving DecidableEq, Repr

/-- The number `digits * 10 ^ exponent`. -/
structure Decimal where
  digits : Nat
  exponent : Int
  deriving DecidableEq, Repr

namespace Binary

/-- The bit in front of the fraction of a number that is not tiny. -/
def leadingBit : Nat := Nat.pow 2 52

/-- What a finite floating-point number without sign stands for. -/
def ofFloat (x : Float) : Binary :=
  let bits := x.toBits.toNat
  let fraction := bits % leadingBit
  let biased := bits / leadingBit % 2048
  if biased = 0 then ⟨fraction, -1074, false⟩
  else ⟨fraction + leadingBit, Int.ofNat biased - 1075, fraction == 0 && 1 < biased⟩

/-- Four times the number as a fraction, in units of `10 ^ place`. -/
def quadrupleAt (b : Binary) (place : Int) (mantissa4 : Nat) : Nat × Nat :=
  (mantissa4 * Nat.pow 2 b.exponent.toNat * Nat.pow 10 (-place).toNat,
    Nat.pow 2 (-b.exponent).toNat * Nat.pow 10 place.toNat)

/-- Whether `n` units of `10 ^ place` round to the number. -/
def roundsFrom (b : Binary) (place : Int) (n : Nat) : Bool :=
  let (low, unit) := b.quadrupleAt place (4 * b.mantissa - if b.atBoundary then 1 else 2)
  let high := (b.quadrupleAt place (4 * b.mantissa + 2)).1
  let point := 4 * n * unit
  if b.mantissa % 2 = 0 then low ≤ point && point ≤ high else low < point && point < high

/-- The neighbour on the grid of `10 ^ place` that rounds to the number, the nearer one if both
do; of two equally near ones the even one. -/
def neighbour? (b : Binary) (place : Int) : Option Nat :=
  let (number, unit) := b.quadrupleAt place (4 * b.mantissa)
  let below := number / (4 * unit)
  let rest := number % (4 * unit)
  let lowFits := below ≠ 0 && b.roundsFrom place below
  let highFits := b.roundsFrom place (below + 1)
  if lowFits && (!highFits || rest < 2 * unit || (rest = 2 * unit && below % 2 = 0)) then
    some below
  else if highFits then some (below + 1)
  else none

/-- The shortest numeral; the greatest place tried is `place`, and `grids` are tried. -/
def shortestFrom (b : Binary) (place : Int) : (grids : Nat) → Decimal
  | 0 => ⟨0, 0⟩
  | grids + 1 =>
    match b.neighbour? place with
    | some digits => ⟨digits, place⟩
    | none => shortestFrom b (place - 1) grids

/-- A place at which one unit is greater than the number. -/
def firstPlace (b : Binary) : Nat := ((Nat.log2 b.mantissa + 1 + b.exponent) / 3 + 1).toNat

/-- The shortest decimal numeral that reads back as the number. No number needs a place finer than
`10 ^ -324`. -/
def shortest (b : Binary) : Decimal :=
  if b.mantissa = 0 then ⟨0, 0⟩ else b.shortestFrom b.firstPlace (b.firstPlace + 325)

end Binary

namespace Decimal

open Text

/-- A numeral as JSON text. Where the point falls from four zeros before the digits to sixteen
places behind their start it is written in place, with at least one digit on either side; else an
exponent follows the digits. -/
def text (d : Decimal) : String :=
  let digits := decimalDigits d.digits
  let point := digits.length + d.exponent
  let written :=
    if 0 ≤ d.exponent && point ≤ 16 then
      digits ++ List.replicate d.exponent.toNat '0' ++ ['.', '0']
    else if 0 < point && point ≤ 16 then
      digits.take point.toNat ++ '.' :: digits.drop point.toNat
    else if -5 < point && point ≤ 0 then
      '0' :: '.' :: (List.replicate (-point).toNat '0' ++ digits)
    else
      let power := point - 1
      let sign := if power < 0 then ['-'] else []
      digits.take 1 ++ (if digits.length = 1 then [] else '.' :: digits.drop 1) ++
        'e' :: (sign ++ decimalDigits power.natAbs)
  String.ofList written

/-- The shortest text of a finite floating-point number without sign. -/
def ofFloat (x : Float) : Decimal := (Binary.ofFloat x).shortest

end Decimal

end PostFilter
