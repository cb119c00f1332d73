import PostFilter.CharSet.Property
import PostFilter.Pattern.Fault
import PostFilter.Pattern.Tree
import PostFilter.Text.Blank
import PostFilter.Text.Numeral
import PostFilter.Text.Reading

/-!
# Patterns — reading the parts

The readers of everything smaller than a group: counted repetitions, escapes, switches, group names
and bracketed classes. Each takes the characters from its own first one on. With `spaced`, blanks
and `#` comments between the parts are skipped.

A reader fails with the first fault it meets from left to right; where a part is faulty in itself
and also unfinished, the missing end is reported.
-/

namespace PostFilter.Pattern

open PostFilter.Text

/-! ### Blanks and runs -/

/-- Drops blanks and comments; `inComment` says whether a comment is open. -/
def skipFrom : (inComment : Bool) → List Char → List Char
  | _, [] => []
  | true, c :: rest => skipFrom (c != '\n') rest
  | false, c :: rest =>
    if isBlank c then skipFrom false rest
    else if c == '#' then skipFrom true rest
    else c :: rest

/-- Drops what a spaced pattern does not count. -/
def skip (spaced : Bool) (s : List Char) : List Char := if spaced then skipFrom false s else s

theorem length_skipFrom_le (inComment : Bool) (s : List Char) :
    (skipFrom inComment s).length ≤ s.length := by
  induction s generalizing inComment with
  | nil => cases inComment <;> simp [skipFrom]
  | cons c rest ih =>
    cases inComment with
    | true => have := ih (c != '\n'); simp only [skipFrom, List.length_cons]; omega
    | false =>
      simp only [skipFrom]
      split
      · have := ih false; simp only [List.length_cons]; omega
      · split
        · have := ih true; simp only [List.length_cons]; omega
        · exact Nat.le_refl _

theorem length_skip_le (spaced : Bool) (s : List Char) : (skip spaced s).length ≤ s.length := by
  unfold skip
  split
  · exact length_skipFrom_le false s
  · exact Nat.le_refl _

/-- The reading that takes what a spaced pattern does not count. -/
def skipped (spaced : Bool) (s : List Char) : Reading Unit s :=
  ⟨(), skip spaced s, length_skip_le spaced s⟩

/-- The run of characters that satisfy `p`, and then what is skipped after each of them. -/
def scan (spaced : Bool) (p : Char → Bool) (s : List Char) : Reading (List Char) s :=
  match s with
  | [] => .stay [] []
  | c :: rest =>
    if p c then
      let next := scan spaced p (skip spaced rest)
      (((skipped spaced rest).andThen next).map (c :: ·)).past c
    else .stay [] (c :: rest)
termination_by s.length
decreasing_by
  have := length_skip_le spaced rest
  simp only [List.length_cons]; omega

/-- The character after the current one, as it decides whether `-` makes a range. In a spaced
pattern blanks are passed over, and so is the sign that opens a comment. -/
def peekAfter (spaced : Bool) (rest : List Char) : Option Char :=
  if spaced then
    match rest.dropWhile isBlank with
    | '#' :: more => (more.dropWhile isBlank).head?.or rest.head?
    | c :: _ => some c
    | [] => rest.head?
  else rest.head?

/-! ### Numbers -/

/-- The character with the code that the hexadecimal digits spell. -/
def hexChar (digits : List Char) : Except Fault Char :=
  let code := valueOf 16 digits
  if code.isValidChar then .ok (Char.ofNat code) else .error .hexInvalid

/-- A count: at least one digit, below `2 ^ 32`, with blanks around it. What is wrong with the
number is reported only after the rest of the repetition has been looked at. -/
def readCount (spaced : Bool) (s : List Char) : Reading (Except Fault Nat) s :=
  let start := Reading.run isBlank s
  let digits := start.andThen (scan spaced isDigit start.rest)
  let after := digits.andThen (scan spaced isBlank digits.rest)
  after.map fun _ =>
    if digits.value.isEmpty then .error .repetitionCountEmpty
    else if valueOf 10 digits.value < UInt32.size then .ok (valueOf 10 digits.value)
    else .error .decimalInvalid

/-- How often a part is repeated. -/
structure Repeat where
  min : Nat
  max : Option Nat
  greedy : Bool

/-- A counted repetition from behind its `{` on. -/
def readRepeat (spaced : Bool) (s : List Char) : Except Fault (Reading Repeat s) := do
  let start := skipped spaced s
  if start.rest.isEmpty then throw .repetitionCountUnclosed
  let first := start.andThen (readCount spaced start.rest)
  if first.rest.isEmpty then throw .repetitionCountUnclosed
  let bounds : Reading (Nat × Option Nat) s ←
    match first.sign? ',' with
    | none => do
      let n ← first.value
      pure (first.map fun _ => (n, some n))
    | some comma => do
      let behind := comma.andThen (skipped spaced comma.rest)
      if behind.rest.isEmpty then throw .repetitionCountUnclosed
      let min ← first.value
      if behind.rest.head? == some '}' then pure (behind.map fun _ => (min, none))
      else
        let second := behind.andThen (readCount spaced behind.rest)
        let max ← second.value
        pure (second.map fun _ => (min, some max))
  match bounds.sign? '}' with
  | none => throw .repetitionCountUnclosed
  | some close =>
    let (min, max) := bounds.value
    if max.any fun m => m < min then throw .repetitionCountInvalid
    let behind := close.andThen (skipped spaced close.rest)
    match behind.sign? '?' with
    | some mark => pure (mark.map fun _ => ⟨min, max, false⟩)
    | none => pure (behind.map fun _ => ⟨min, max, true⟩)

/-! ### Escapes -/

/-- One part that no operator is applied to yet. -/
inductive Primitive where
  | literal (literal : Literal)
  | assertion (assertion : Assertion)
  | property (name : PropertyName) (negated : Bool)
  | short (kind : ShortClass) (negated : Bool)

/-- Characters with a meaning of their own somewhere in a pattern. -/
def isMeta (c : Char) : Bool := "\\.+*?()|[]\x7b\x7d^$#&-~".toList.contains c

/-- ASCII characters that may be escaped although they have no meaning. -/
def isEscapable (c : Char) : Bool :=
  c.toNat < 128 && !c.isAlphanum && c != '<' && c != '>'

/-- Characters of the names in `\b{…}`. -/
def isBoundaryChar (c : Char) : Bool := c.isAlpha || c == '-'

/-- The name in `\b{…}`, from behind the brace on; `none` where the brace opens a count. -/
def readBoundary (spaced : Bool) (s : List Char) :
    Except Fault (Option (Reading Assertion s)) := do
  let start := skipped spaced s
  match start.rest.head? with
  | none => throw .wordBoundaryUnexpectedEnd
  | some c =>
    if !isBoundaryChar c then return none
    let name := start.andThen (scan spaced isBoundaryChar start.rest)
    match name.sign? '}' with
    | none => throw .wordBoundaryUnclosed
    | some close =>
      let found (a : Assertion) : Option (Reading Assertion s) := some (close.map fun _ => a)
      match String.ofList name.value with
      | "start" => return found .wordStart
      | "end" => return found .wordEnd
      | "start-half" => return found .wordStartHalf
      | "end-half" => return found .wordEndHalf
      | _ => throw .wordBoundaryUnrecognized

/-- Exactly `n` hexadecimal digits. -/
def readHexDigits (spaced : Bool) : (n : Nat) → (s : List Char) →
    Except Fault (Reading (List Char) s)
  | 0, s => pure (.stay [] s)
  | n + 1, s =>
    match s with
    | [] => throw .escapeUnexpectedEnd
    | c :: rest => do
      if !isHexDigit c then throw .hexInvalidDigit
      let next ← readHexDigits spaced n (skip spaced rest)
      pure ((((skipped spaced rest).andThen next).map (c :: ·)).past c)

/-- A hexadecimal escape from behind its letter on; `digits` is the length of its short form. -/
def readHex (spaced : Bool) (digits : Nat) (s : List Char) :
    Except Fault (Reading Literal s) := do
  let start := skipped spaced s
  if start.rest.isEmpty then throw .escapeUnexpectedEnd
  match start.sign? '{' with
  | some brace =>
    let inner := brace.andThen (skipped spaced brace.rest)
    let run := inner.andThen (scan spaced isHexDigit inner.rest)
    if run.rest.isEmpty then throw .escapeUnexpectedEnd
    match run.sign? '}' with
    | none => throw .hexInvalidDigit
    | some close =>
      if run.value.isEmpty then throw .hexEmpty
      let c ← hexChar run.value
      pure (close.andThen ((skipped spaced close.rest).map fun _ => ⟨c, false⟩))
  | none =>
    let run ← readHexDigits spaced digits start.rest
    let c ← hexChar run.value
    pure (start.andThen (run.map fun _ => ⟨c, digits == 2⟩))

/-- The property that braces name: `name!=value`, `name:value`, `name=value` or a name alone.
The result says whether the class is negated by `!=`. -/
def propertyName (text : List Char) : PropertyName × Bool :=
  let rec splitAtNotEqual : List Char → Option (List Char × List Char)
    | '!' :: '=' :: rest => some ([], rest)
    | c :: rest => (splitAtNotEqual rest).map fun (a, b) => (c :: a, b)
    | [] => none
  let valued (parts : List Char × List Char) : PropertyName :=
    .valued (String.ofList parts.1) (String.ofList parts.2)
  match splitAtNotEqual text with
  | some parts => (valued parts, true)
  | none =>
    match (splitFirst? (· == ':') text).orElse fun _ => splitFirst? (· == '=') text with
    | some parts => (valued parts, false)
    | none => (.plain (String.ofList text), false)

/-- A property class from behind its letter on. -/
def readProperty (spaced negated : Bool) (s : List Char) :
    Except Fault (Reading Primitive s) := do
  let start := skipped spaced s
  match start.sign? '{' with
  | some brace =>
    let inner := brace.andThen (skipped spaced brace.rest)
    let run := inner.andThen (scan spaced (· != '}') inner.rest)
    match run.sign? '}' with
    | none => throw .escapeUnexpectedEnd
    | some close =>
      let (name, flipped) := propertyName run.value
      pure (close.map fun _ => .property name (negated != flipped))
  | none =>
    match start.next? with
    | none => throw .escapeUnexpectedEnd
    | some c =>
      if c.value == '\\' then throw .unicodeClassInvalid
      let found := Primitive.property (.plain c.value.toString) negated
      pure (c.andThen ((skipped spaced c.rest).map fun _ => found))

/-- The escapes that are one letter, `\b` apart. -/
def letterEscape? (c : Char) : Option Primitive :=
  let code (n : Nat) : Option Primitive := some (.literal ⟨Char.ofNat n, false⟩)
  match c with
  | 'd' => some (.short .digit false)
  | 'D' => some (.short .digit true)
  | 's' => some (.short .space false)
  | 'S' => some (.short .space true)
  | 'w' => some (.short .word false)
  | 'W' => some (.short .word true)
  | 'a' => code 7
  | 't' => code 9
  | 'n' => code 10
  | 'v' => code 11
  | 'f' => code 12
  | 'r' => code 13
  | 'A' => some (.assertion .textStart)
  | 'z' => some (.assertion .textEnd)
  | 'B' => some (.assertion .notWordBoundary)
  | '<' => some (.assertion .wordStart)
  | '>' => some (.assertion .wordEnd)
  | _ => none

/-- What follows `\b`: a named kind of boundary in braces, or nothing that belongs to it. -/
def readAfterBoundary (spaced : Bool) (s : List Char) : Except Fault (Reading Assertion s) :=
  match s with
  | '{' :: inner =>
    match readBoundary spaced inner with
    | .error fault => .error fault
    | .ok (some reading) => .ok (reading.past '{')
    | .ok none => .ok (.stay Assertion.wordBoundary _)
  | other => .ok (.stay Assertion.wordBoundary other)

/-- An escape from behind its backslash on. -/
def readEscape (spaced : Bool) (s : List Char) : Except Fault (Reading Primitive s) :=
  match s with
  | [] => .error .escapeUnexpectedEnd
  | c :: rest =>
    let wide {α : Type} (f : α → Primitive) (r : Except Fault (Reading α rest)) :
        Except Fault (Reading Primitive (c :: rest)) :=
      r.map fun reading => (reading.map f).past c
    if isDigit c then .error .backreference
    else if c == 'x' then wide .literal (readHex spaced 2 rest)
    else if c == 'u' then wide .literal (readHex spaced 4 rest)
    else if c == 'U' then wide .literal (readHex spaced 8 rest)
    else if c == 'p' then wide id (readProperty spaced false rest)
    else if c == 'P' then wide id (readProperty spaced true rest)
    else if c == 'b' then wide .assertion (readAfterBoundary spaced rest)
    else if isMeta c || isEscapable c then .ok (.skipOne (.literal ⟨c, false⟩) c rest)
    else
      match letterEscape? c with
      | some p => .ok (.skipOne p c rest)
      | none => .error .escapeUnrecognized

/-! ### Switches and group names -/

def switchOfLetter? : Char → Option Switch
  | 'i' => some .ignoreCase
  | 'm' => some .multiLine
  | 's' => some .dotAll
  | 'U' => some .swapGreed
  | 'u' => some .unicode
  | 'R' => some .crlf
  | 'x' => some .ignoreSpace
  | _ => none

/-- Switches up to `:` or `)`, which is returned with them. `seen` holds those read so far; with
`negating` a `-` has been read, and with `dangling` it was the last character. -/
def readSwitches (seen : SwitchChange) (negating dangling : Bool) (s : List Char) :
    Except Fault (Reading (SwitchChange × Char) s) :=
  match s with
  | [] => .error .flagUnexpectedEnd
  | c :: rest =>
    if c == ':' || c == ')' then
      if dangling then .error .flagDanglingNegation
      else .ok (.skipOne (seen, c) c rest)
    else if c == '-' then
      if negating then .error .flagRepeatedNegation
      else (readSwitches seen true true rest).map (·.past c)
    else
      match switchOfLetter? c with
      | none => .error .flagUnrecognized
      | some switch =>
        if seen.any fun entry => entry.1 = switch then .error .flagDuplicate
        else
          (readSwitches (seen ++ [(switch, !negating)]) negating false rest).map
            (·.past c)

/-- Whether `c` may stand in a group name; the first character must be a letter or `_`. -/
def isNameChar (first : Bool) (c : Char) : Bool :=
  if first then c == '_' || Letter.isAlphabetic c
  else c == '_' || c == '.' || c == '[' || c == ']' || Letter.isAlphanumeric c

/-- The characters of a group name up to `>`. -/
def readNameChars (first : Bool) (s : List Char) : Except Fault (Reading (List Char) s) :=
  match s with
  | [] => .error .groupNameUnclosed
  | c :: rest =>
    if c == '>' then .ok (.skipOne [] c rest)
    else if !isNameChar first c then .error .groupNameInvalid
    else (readNameChars false rest).map fun r => (r.map (c :: ·)).past c

/-- A group name from behind `<` on; it must not be one of `taken`. -/
def readName (taken : List String) (s : List Char) : Except Fault (Reading String s) := do
  let chars ← readNameChars true s
  if chars.value.isEmpty then throw .groupNameEmpty
  let name := String.ofList chars.value
  if taken.contains name then throw .groupNameDuplicate
  pure (chars.map fun _ => name)

end PostFilter.Pattern
