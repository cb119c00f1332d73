import PostFilter.Replacement.Basic

/-!
# Replacement — what a template says

A user's template is a list of parts: characters that stand for themselves, and captures. `Says`
derives the parts from the text, without the notation in which templates are stored. A dollar makes
a capture of what is behind it where that refers to a capture of the pattern (`Refers`); two dollars
are one, and any other dollar is a dollar.
-/

namespace PostFilter.Template

open Text

/-- A part of a template: a character, or the capture with an index, where 0 is the whole match. -/
inductive Part where
  | char (c : Char)
  | capture (index : Nat)
  deriving DecidableEq, Repr

/-- What a part puts in the place of a match, given the text of every capture. -/
def Part.text (captured : Nat → List Char) : Part → List Char
  | .char c => [c]
  | .capture index => captured index

/-- Whether one or two digits spell the index of a capture, the whole match excepted. -/
structure IsNumber (count : Nat) (digits : List Char) (index : Nat) : Prop where
  short : digits.length ≤ 2
  value : decimalValue? digits = some index
  positive : 1 ≤ index
  within : index ≤ count

variable (groups : Array (Option String))

/-- The index of the capture with a name; entry `i` belongs to capture `i + 1`. -/
def indexOfName? (name : List Char) : Option Nat :=
  (groups.findIdx? (· == some (String.ofList name))).map (· + 1)

/-- `Refers groups s index rest`: right behind a dollar, `s` refers to a capture and goes on with
`rest`. Of two numbers the longer one counts. -/
inductive Refers : (s : List Char) → (index : Nat) → (rest : List Char) → Prop where
  | whole (rest : List Char) : Refers ('&' :: rest) 0 rest
  | number {digits rest : List Char} {index : Nat} (h : IsNumber groups.size digits index)
      (hlongest : ∀ c ∈ rest.head?, ∀ longer, ¬ IsNumber groups.size (digits ++ [c]) longer) :
      Refers (digits ++ rest) index rest
  | bracedNumber {digits : List Char} {index : Nat} (h : readIndex? digits = some index)
      (hwithin : index ≤ groups.size) (rest : List Char) :
      Refers ('{' :: (digits ++ '}' :: rest)) index rest
  | bracedName {name : List Char} {index : Nat} (h : indexOfName? groups name = some index)
      (rest : List Char) : Refers ('{' :: (name ++ '}' :: rest)) index rest
  | name {name : List Char} {index : Nat} (h : indexOfName? groups name = some index)
      (rest : List Char) : Refers ('<' :: (name ++ '>' :: rest)) index rest

/-- `Says groups s parts`: these are the parts of the template `s`. -/
inductive Says : (s : List Char) → (parts : List Part) → Prop where
  | nil : Says [] []
  | char {c : Char} {s : List Char} {parts : List Part} (hc : c ≠ '$') (h : Says s parts) :
      Says (c :: s) (.char c :: parts)
  | dollars {s : List Char} {parts : List Part} (h : Says s parts) :
      Says ('$' :: '$' :: s) (.char '$' :: parts)
  | capture {s rest : List Char} {index : Nat} {parts : List Part}
      (href : Refers groups s index rest) (h : Says rest parts) :
      Says ('$' :: s) (.capture index :: parts)
  | dollar {s : List Char} {parts : List Part} (hdollar : s.head? ≠ some '$')
      (hnone : ∀ index rest, ¬ Refers groups s index rest) (h : Says s parts) :
      Says ('$' :: s) (.char '$' :: parts)

end PostFilter.Template

namespace PostFilter.Replacement

/-- The text that a capture took at a match; one that took no part has none. -/
def captured (text : List Char) (slots : Pattern.Slots) (index : Nat) : List Char :=
  match slots.getD (2 * index) none, slots.getD (2 * index + 1) none with
  | some start, some stop => (text.drop start).take (stop - start)
  | _, _ => []

end PostFilter.Replacement
