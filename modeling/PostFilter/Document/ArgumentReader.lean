import PostFilter.Document.Fault
import PostFilter.Text.Blank

/-!
# Documents — reading arguments

The grammars of the arguments that hold no free text and no pattern. Each reader is given the text
between the parentheses without the blanks around it.

```
ranges    := range ("," range)*          range := number | number "-" number
image     := ("<" | "=" | ">") range? ("@" size ("-" size)?)?
size      := number "x" number
checks    := word ("," word)*
signature := number | ("0x" | "0X") hexadecimal digits
```

Blanks may stand around every part.
-/

namespace PostFilter.Document

open Text

/-- A decimal number below `2 ^ 64`. -/
def readNumber (s : List Char) : Except ArgumentFault UInt64 :=
  match decimalValue? s with
  | none => .error (.numberExpected (String.ofList s))
  | some n =>
    if n < UInt64.size then .ok (UInt64.ofNat n) else .error (.numberTooLarge (String.ofList s))

/-- A number, or two with `-` between them and the smaller one first. -/
def readRange (s : List Char) : Except ArgumentFault NumberRange := do
  match splitFirst? (· == '-') s with
  | none => return .single (← readNumber s)
  | some (a, b) =>
    let min ← readNumber (trimList a)
    let max ← readNumber (trimList b)
    if max < min then throw (.rangeReversed ⟨min, max⟩)
    return ⟨min, max⟩

/-- Ranges with commas between them. -/
def readRanges (s : List Char) : Except ArgumentFault (List NumberRange) :=
  (splitAll (· == ',') s).mapM fun part => readRange (trimList part)

/-- A number below `2 ^ 32`. -/
def readDimension (s : List Char) : Except ArgumentFault UInt32 := do
  let n ← readNumber (trimList s)
  if n.toNat < UInt32.size then return n.toUInt32 else throw (.dimensionTooLarge n)

/-- Width and height. -/
def readDimensions (s : List Char) : Except ArgumentFault Dimensions := do
  match splitFirst? (· == 'x') s with
  | none => throw (.sizeExpected (String.ofList s))
  | some (w, h) =>
    let width ← readDimension w
    let height ← readDimension h
    return ⟨width, height⟩

/-- Dimensions, or two with `-` between them and the first no larger on either axis. -/
def readSizeRange (s : List Char) : Except ArgumentFault SizeRange := do
  match splitFirst? (· == '-') s with
  | none =>
    let d ← readDimensions s
    return ⟨d, d⟩
  | some (a, b) =>
    let min ← readDimensions (trimList a)
    let max ← readDimensions (trimList b)
    if max.width < min.width || max.height < min.height then throw (.sizeReversed ⟨min, max⟩)
    return ⟨min, max⟩

/-- The part of an image bound before `@`; it may be missing. -/
def readWeight (s : List Char) : Except ArgumentFault (Option NumberRange) :=
  if s.isEmpty then .ok none else (readRange s).map some

/-- An image bound: it has a weight or a size, and proper ranges only with `=`. -/
def readImageBound (s : List Char) : Except ArgumentFault ImageBound := do
  match s with
  | [] => throw .comparisonExpected
  | c :: rest =>
    match Comparison.ofSign? c with
    | none => throw .comparisonExpected
    | some cmp =>
      let body := trimList rest
      let (weight, size) ←
        match splitFirst? (· == '@') body with
        | none => do pure (← readWeight body, none)
        | some (w, d) => do
          let weight ← readWeight (trimList w)
          let size ← readSizeRange (trimList d)
          pure (weight, some size)
      if weight.isNone && size.isNone then throw .boundExpected
      let isProper := (weight.any fun r => r.min != r.max) || (size.any fun r => r.min != r.max)
      if isProper && cmp != .equal then throw .rangeNeedsEqual
      return ⟨cmp, weight, size⟩

/-- The check with a given word. -/
def readCheck (s : List Char) : Except ArgumentFault Check :=
  match Check.ofWord? (String.ofList s) with
  | some check => .ok check
  | none => .error (.checkUnknown (String.ofList s))

/-- Checks with commas between them. -/
def readChecks (s : List Char) : Except ArgumentFault Checks := do
  let checks ← (splitAll (· == ',') s).mapM fun part => readCheck (trimList part)
  return checks.foldl Checks.insert .none

/-- A hash in decimal, or in hexadecimal behind `0x`. -/
def readSignature (s : List Char) : Except ArgumentFault UInt64 :=
  match s with
  | '0' :: x :: digits =>
    if x == 'x' || x == 'X' then
      if digits.isEmpty || !digits.all isHexDigit then .error (.hashInvalid (String.ofList s))
      else if valueOf 16 digits < UInt64.size then .ok (UInt64.ofNat (valueOf 16 digits))
      else .error (.hashTooLarge (String.ofList s))
    else readNumber s
  | _ => readNumber s

end PostFilter.Document
