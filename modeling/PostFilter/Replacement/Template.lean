import PostFilter.Text.Blank
import PostFilter.Text.Numeral

/-!
# Replacement — templates

The text that takes the place of a match may refer to captures. There are two notations.

* As stored: `$$` is a dollar, `${x}` and `$x` refer to a capture by number or name, an unbraced
  reference takes the longest identifier, and what no capture answers to stands for nothing.
  `expand` gives such a text its meaning.
* As a user writes it: `$1`, `$12`, `$&`, `${1}`, `${name}` and `$<name>` refer to captures that the
  pattern has, and any other dollar is a dollar.

`normalize` brings the second into the first: every reference into braces, every other dollar
doubled.
-/

namespace PostFilter.Template

open Text

/-- The captures of a pattern, as far as a template can ask. -/
structure Captures where
  /-- The number of captures. -/
  count : Nat
  /-- Whether a capture has this name. -/
  hasName : List Char → Bool

/-- The number that one or two digits at the front spell, the longer one first, if it is the index
of a capture; with it the rest behind the digits. -/
def numbered? (count : Nat) (s : List Char) : Option (List Char × List Char) :=
  let two := s.take 2
  let valid (digits : List Char) : Bool :=
    (decimalValue? digits).any fun n => 1 ≤ n && n ≤ count
  if two.length == 2 && valid two then some (two, s.drop 2)
  else if valid (s.take 1) then some (s.take 1, s.drop 1)
  else none

/-- The reference that a user's text makes right behind a dollar, and the rest behind it. A number
in braces may be 0; in angle brackets only a name may stand. -/
def reference? (caps : Captures) (s : List Char) : Option (List Char × List Char) :=
  match s with
  | [] => none
  | '&' :: rest => some (['0'], rest)
  | '{' :: rest =>
    (splitFirst? (· == '}') rest).filter fun (name, _) =>
      match readIndex? name with
      | some n => n ≤ caps.count
      | none => !name.isEmpty && caps.hasName name
  | '<' :: rest =>
    (splitFirst? (· == '>') rest).filter fun (name, _) =>
      (readIndex? name).isNone && !name.isEmpty && caps.hasName name
  | c :: _ => if isDigit c then numbered? caps.count s else none

theorem length_of_reference? {caps : Captures} {s name rest : List Char}
    (h : reference? caps s = some (name, rest)) : rest.length ≤ s.length := by
  unfold reference? at h
  split at h
  · simp at h
  · simp only [Option.some.injEq, Prod.mk.injEq] at h
    simp [← h.2]
  · rw [Option.filter_eq_some_iff] at h
    have := length_of_splitFirst? h.1
    simp only [List.length_cons]; omega
  · rw [Option.filter_eq_some_iff] at h
    have := length_of_splitFirst? h.1
    simp only [List.length_cons]; omega
  · split at h
    · simp only [numbered?] at h
      split at h
      · simp only [Option.some.injEq, Prod.mk.injEq] at h
        rw [← h.2]; simp only [List.length_drop]; omega
      · split at h
        · simp only [Option.some.injEq, Prod.mk.injEq] at h
          rw [← h.2]; simp only [List.length_drop]; omega
        · simp at h
    · simp at h

/-- A user's text with its references in braces and its other dollars doubled. -/
def normalize (caps : Captures) (s : List Char) : List Char :=
  match s with
  | [] => []
  | c :: rest =>
    if c != '$' then c :: normalize caps rest
    else
      match h : reference? caps rest with
      | some (name, after) =>
        have := length_of_reference? h
        '$' :: '{' :: (name ++ '}' :: normalize caps after)
      | none =>
        '$' :: '$' :: normalize caps (if rest.head? == some '$' then rest.drop 1 else rest)
termination_by s.length
decreasing_by
  · simp
  · simp only [List.length_cons]; omega
  · simp only [List.length_cons]
    split
    · simp only [List.length_drop]; omega
    · omega

/-- A reference of a stored text. -/
inductive Reference where
  | number (n : Nat)
  | name (name : List Char)
  deriving DecidableEq, Repr

/-- A name that reads as a number is one. -/
def Reference.ofName (name : List Char) : Reference :=
  match readIndex? name with
  | some n => .number n
  | none => .name name

/-- Characters of an unbraced reference. -/
def isIdentifier (c : Char) : Bool :=
  isDigit c || ('a' ≤ c && c ≤ 'z') || ('A' ≤ c && c ≤ 'Z') || c == '_'

/-- The reference that a stored text makes right behind a dollar, and the rest behind it. -/
def storedReference? (s : List Char) : Option (Reference × List Char) :=
  match s with
  | '{' :: rest => (splitFirst? (· == '}') rest).map fun (name, after) => (.ofName name, after)
  | _ =>
    let name := s.takeWhile isIdentifier
    if name.isEmpty then none else some (.ofName name, s.dropWhile isIdentifier)

theorem length_of_storedReference? {s rest : List Char} {r : Reference}
    (h : storedReference? s = some (r, rest)) : rest.length ≤ s.length := by
  unfold storedReference? at h
  split at h
  · simp only [Option.map_eq_some_iff, Prod.mk.injEq, Prod.exists] at h
    obtain ⟨a, b, h, -, rfl⟩ := h
    have := length_of_splitFirst? h
    simp only [List.length_cons]; omega
  · simp only at h
    split at h
    · simp at h
    · simp only [Option.some.injEq, Prod.mk.injEq] at h
      rw [← h.2]
      exact (List.dropWhile_sublist _).length_le

/-- The meaning of a stored text, given what each reference stands for. -/
def expand (value : Reference → List Char) (s : List Char) : List Char :=
  match s with
  | [] => []
  | c :: rest =>
    if c != '$' then c :: expand value rest
    else if rest.head? == some '$' then '$' :: expand value (rest.drop 1)
    else
      match h : storedReference? rest with
      | some (r, after) =>
        have := length_of_storedReference? h
        value r ++ expand value after
      | none => '$' :: expand value rest
termination_by s.length
decreasing_by
  · simp
  · simp only [List.length_cons, List.length_drop]; omega
  · simp only [List.length_cons]; omega
  · simp

end PostFilter.Template
