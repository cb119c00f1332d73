import PostFilter.Pattern.Basic
import PostFilter.Spam.Checks
import PostFilter.Text.Numeral

/-!
# Spells — arguments

What a spell is told in parentheses. Every argument has a written form, `Argument.text`, and
arguments are totally ordered by `Argument.compare`: first by shape, then by content.
-/

namespace PostFilter

/-- Numbers from `min` to `max`, both included. -/
structure NumberRange where
  min : UInt64
  max : UInt64
  deriving DecidableEq, Repr

/-- How an attachment is compared with a bound. -/
inductive Comparison where
  /-- Below the bound. -/
  | less
  /-- Within the bound. -/
  | equal
  /-- Above the bound. -/
  | greater
  deriving DecidableEq, Repr

/-- Width and height in pixels. -/
structure Dimensions where
  width : UInt32
  height : UInt32
  deriving DecidableEq, Repr

/-- Dimensions from `min` to `max` on both axes, both included. -/
structure SizeRange where
  min : Dimensions
  max : Dimensions
  deriving DecidableEq, Repr

/-- A bound on the weight in kilobytes, on the size in pixels, or on both. -/
structure ImageBound where
  cmp : Comparison
  weight : Option NumberRange
  size : Option SizeRange
  deriving DecidableEq, Repr

/-- The argument of a spell. -/
inductive Argument where
  | text (text : String)
  | pattern (pattern : Pattern)
  | ranges (ranges : List NumberRange)
  | image (bound : ImageBound)
  | checks (checks : Checks)
  | signature (hash : UInt64)
  deriving DecidableEq

/-! ### Meaning -/

/-- The range of one number. -/
def NumberRange.single (n : UInt64) : NumberRange := ⟨n, n⟩

/-- Whether a number is in the range. -/
def NumberRange.has (r : NumberRange) (n : UInt64) : Bool := r.min ≤ n && n ≤ r.max

/-- Whether a number compares with a bound as `cmp` says. -/
def Comparison.holds (cmp : Comparison) (n : UInt64) (bound : NumberRange) : Bool :=
  match cmp with
  | .less => n < bound.min
  | .equal => bound.has n
  | .greater => bound.max < n

/-- Whether a size compares with a bound on both axes. -/
def SizeRange.holds (cmp : Comparison) (bound : SizeRange) (d : Dimensions) : Bool :=
  cmp.holds d.width.toUInt64 ⟨bound.min.width.toUInt64, bound.max.width.toUInt64⟩ &&
    cmp.holds d.height.toUInt64 ⟨bound.min.height.toUInt64, bound.max.height.toUInt64⟩

/-- Whether an attachment satisfies every part of the bound; an unknown weight or size satisfies
none. -/
def ImageBound.holds (b : ImageBound) (weight : Option UInt64) (size : Option Dimensions) : Bool :=
  (b.weight.all fun bound => weight.any fun w => b.cmp.holds w bound) &&
    (b.size.all fun bound => size.any fun d => bound.holds b.cmp d)

/-! ### Written form -/

open Text

/-- The sign of a comparison. -/
def Comparison.sign : Comparison → Char
  | .less => '<'
  | .equal => '='
  | .greater => '>'

/-- The comparison with a given sign. -/
def Comparison.ofSign? : Char → Option Comparison
  | '<' => some .less
  | '=' => some .equal
  | '>' => some .greater
  | _ => none

/-- A range as it is written; a single number stands alone. -/
def NumberRange.text (r : NumberRange) : String :=
  if r.min = r.max then decimal r.min.toNat
  else decimal r.min.toNat ++ "-" ++ decimal r.max.toNat

/-- Dimensions as they are written. -/
def Dimensions.text (d : Dimensions) : String :=
  decimal d.width.toNat ++ "x" ++ decimal d.height.toNat

/-- A size range as it is written; a single size stands alone. -/
def SizeRange.text (r : SizeRange) : String :=
  if r.min = r.max then r.min.text else r.min.text ++ "-" ++ r.max.text

/-- An image bound as it is written. -/
def ImageBound.text (b : ImageBound) : String :=
  b.cmp.sign.toString ++ (b.weight.map NumberRange.text).getD "" ++
    (b.size.map fun s => "@" ++ s.text).getD ""

/-- Free text with a backslash before `\`, `(` and `)`. -/
def escape : List Char → List Char
  | [] => []
  | c :: rest =>
    if c == '\\' || c == '(' || c == ')' then '\\' :: c :: escape rest else c :: escape rest

/-- Free text with its special characters escaped. -/
def escapeText (s : String) : String := String.ofList (escape s.toList)

/-- An argument as it is written. -/
def Argument.written : Argument → String
  | .text t => escapeText t
  | .pattern p => p.text
  | .ranges rs => ",".intercalate (rs.map NumberRange.text)
  | .image b => b.text
  | .checks cs => cs.text
  | .signature hash => "0x" ++ hex16 hash

/-! ### Order -/

/-- Lists are compared element by element; a shorter one comes first. -/
def compareLists {α : Type} (cmp : α → α → Ordering) : List α → List α → Ordering
  | [], [] => .eq
  | [], _ :: _ => .lt
  | _ :: _, [] => .gt
  | a :: as, b :: bs => (cmp a b).then (compareLists cmp as bs)

/-- What is absent comes first. -/
def compareOptions {α : Type} (cmp : α → α → Ordering) : Option α → Option α → Ordering
  | none, none => .eq
  | none, some _ => .lt
  | some _, none => .gt
  | some a, some b => cmp a b

def NumberRange.compare (a b : NumberRange) : Ordering :=
  (Ord.compare a.min b.min).then (Ord.compare a.max b.max)

/-- The place of a comparison in the order. -/
def Comparison.rank : Comparison → Nat
  | .less => 0
  | .equal => 1
  | .greater => 2

def Dimensions.compare (a b : Dimensions) : Ordering :=
  (Ord.compare a.width b.width).then (Ord.compare a.height b.height)

def SizeRange.compare (a b : SizeRange) : Ordering :=
  (a.min.compare b.min).then (a.max.compare b.max)

def ImageBound.compare (a b : ImageBound) : Ordering :=
  (Ord.compare a.cmp.rank b.cmp.rank).then
    ((compareOptions NumberRange.compare a.weight b.weight).then
      (compareOptions SizeRange.compare a.size b.size))

/-- The place of an argument's shape in the order. -/
def Argument.rank : Argument → Nat
  | .text _ => 0
  | .pattern _ => 1
  | .ranges _ => 2
  | .image _ => 3
  | .checks _ => 4
  | .signature _ => 5

/-- Arguments are ordered by shape, then by content. -/
def Argument.compare : Argument → Argument → Ordering
  | .text a, .text b => Ord.compare a b
  | .pattern a, .pattern b => a.compare b
  | .ranges a, .ranges b => compareLists NumberRange.compare a b
  | .image a, .image b => a.compare b
  | .checks a, .checks b => a.compare b
  | .signature a, .signature b => Ord.compare a b
  | a, b => Ord.compare a.rank b.rank

end PostFilter
