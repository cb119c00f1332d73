/-!
# Text — numerals

Numbers as they are written and read: decimal without leading zeros, and hexadecimal of a fixed
width in small letters.
-/

namespace PostFilter.Text

/-- The character of a digit below 16. -/
def digitChar (n : Nat) : Char :=
  if n < 10 then Char.ofNat (48 + n) else Char.ofNat (87 + n)

/-- The decimal digits of a number, the highest first. -/
def decimalDigits (n : Nat) : List Char :=
  if n < 10 then [digitChar n] else decimalDigits (n / 10) ++ [digitChar (n % 10)]

/-- A number in decimal. -/
def decimal (n : Nat) : String := String.ofList (decimalDigits n)

/-- The last `width` hexadecimal digits of a number. -/
def hexDigits : (width n : Nat) → List Char
  | 0, _ => []
  | width + 1, n => hexDigits width (n / 16) ++ [digitChar (n % 16)]

/-- A 64-bit number as sixteen hexadecimal digits. -/
def hex16 (n : UInt64) : String := String.ofList (hexDigits 16 n.toNat)

/-- Whether `c` is an ASCII digit. -/
def isDigit (c : Char) : Bool := '0' ≤ c && c ≤ '9'

/-- The value of an ASCII digit, or of a letter as a hexadecimal digit. -/
def digitValue (c : Char) : Nat :=
  if c ≤ '9' then c.toNat - 48 else if c ≤ 'F' then c.toNat - 55 else c.toNat - 87

/-- Whether `c` is an ASCII hexadecimal digit in either case. -/
def isHexDigit (c : Char) : Bool :=
  isDigit c || ('a' ≤ c && c ≤ 'f') || ('A' ≤ c && c ≤ 'F')

/-- The number that digits of the given base spell. -/
def valueOf (base : Nat) (digits : List Char) : Nat :=
  digits.foldl (fun n c => n * base + digitValue c) 0

/-- The number that a non-empty text of decimal digits spells. -/
def decimalValue? (s : List Char) : Option Nat :=
  if s.isEmpty || !s.all isDigit then none else some (valueOf 10 s)

/-- A decimal number below `2 ^ 64`, which may have a plus sign. -/
def readIndex? (s : List Char) : Option Nat :=
  let digits := if s.head? == some '+' then s.drop 1 else s
  (decimalValue? digits).filter fun n => n < UInt64.size

end PostFilter.Text
