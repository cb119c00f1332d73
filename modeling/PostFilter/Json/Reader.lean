import PostFilter.Json.Basic
import PostFilter.Text.Reading

/-!
# JSON — reading

`Json.parse?` reads one value with nothing but blanks around it. Every reader is given the text from
its own first character on and hands back what is left, which is never longer.
-/

namespace PostFilter.Json

open Text

/-- Blanks between the parts of a value. -/
def isBlank (c : Char) : Bool := c == ' ' || c == '\n' || c == '\t' || c == '\r'

/-- The text behind blanks. -/
def skip (s : List Char) : List Char := s.dropWhile isBlank

theorem length_skip_le (s : List Char) : (skip s).length ≤ s.length :=
  (List.dropWhile_sublist _).length_le

/-- The reading that takes blanks. -/
def skipped (s : List Char) : Reading Unit s := ⟨(), skip s, length_skip_le s⟩

/-! ### Strings -/

/-- Four hexadecimal digits. -/
def readCode? (s : List Char) : Option (Reading Nat s) :=
  match s with
  | a :: b :: c :: d :: rest =>
    if [a, b, c, d].all isHexDigit then
      some ((((Reading.skipOne (valueOf 16 [a, b, c, d]) d rest).past c).past b).past a)
    else none
  | _ => none

/-- What a `\u` escape stands for, from behind its letter on: a character, from one code or from a
surrogate pair, or nothing readable. -/
def readUnicode? (s : List Char) : Option (Reading (Option Char) s) :=
  match readCode? s with
  | none => none
  | some first =>
    let n := first.value
    let unreadable : Reading (Option Char) s := first.map fun _ => none
    if n < 0xD800 || 0xDFFF < n then some (first.map fun n => some (Char.ofNat n))
    else if 0xDC00 ≤ n then some unreadable
    else
      match (first.sign? '\\').bind fun slash => slash.sign? 'u' with
      | none => some unreadable
      | some behind =>
        match readCode? behind.rest with
        | none => none
        | some second =>
          let m := second.value
          if 0xDC00 ≤ m && m ≤ 0xDFFF then
            let code := (n - 0xD800) * 0x400 + (m - 0xDC00) + 0x10000
            some (behind.andThen (second.map fun _ => some (Char.ofNat code)))
          else some unreadable

/-- The character that a one-letter escape stands for. -/
def letterEscape? : Char → Option Char
  | '"' => some '"'
  | '\\' => some '\\'
  | '/' => some '/'
  | 'b' => some (Char.ofNat 8)
  | 'f' => some (Char.ofNat 12)
  | 'n' => some '\n'
  | 'r' => some '\r'
  | 't' => some '\t'
  | _ => none

/-- The characters of a string from behind its quote on; `none` among them is unreadable. -/
def readStringChars? (s : List Char) : Option (Reading (List (Option Char)) s) :=
  match s with
  | [] => none
  | c :: rest =>
    if c == '"' then some (.skipOne [] c rest)
    else if c == '\\' then
      match rest with
      | [] => none
      | d :: more =>
        if d == 'u' then
          match readUnicode? more with
          | none => none
          | some code =>
            have := code.le
            (readStringChars? code.rest).map fun r =>
              (((code.andThen r).map (code.value :: ·)).past d).past c
        else
          match letterEscape? d with
          | none => none
          | some e =>
            (readStringChars? more).map fun r => ((r.map (some e :: ·)).past d).past c
    else if c.toNat < 32 then none
    else
      (readStringChars? rest).map fun r => (r.map (some c :: ·)).past c
termination_by s.length
decreasing_by
  all_goals simp only [List.length_cons]; omega

/-- The text of characters, if all of them are readable. -/
def readable? (cs : List (Option Char)) : Option String := (cs.mapM id).map String.ofList

/-- A string from behind its quote on. -/
def readString? (s : List Char) : Option (Reading (Option String) s) :=
  (readStringChars? s).map fun r => r.map readable?

/-! ### Numbers -/

/-- The digits at the front; there must be one. -/
def readDigits? (s : List Char) : Option (Reading (List Char) s) :=
  let digits := s.takeWhile isDigit
  if digits.isEmpty then none
  else some ⟨digits, s.dropWhile isDigit, (List.dropWhile_sublist _).length_le⟩

/-- The whole part: no zero stands in front of other digits. -/
def readWhole? (s : List Char) : Option (Reading (List Char) s) :=
  (readDigits? s).filter fun r => r.value.length == 1 || r.value.head? != some '0'

/-- The fraction, if there is one. -/
def readFraction? (s : List Char) : Option (Reading (List Char) s) :=
  match s with
  | '.' :: rest =>
    (readDigits? rest).map fun r => (r.map ('.' :: ·)).past '.'
  | other => some (.stay [] other)

/-- The exponent, if there is one. -/
def readExponent? (s : List Char) : Option (Reading (List Char) s) :=
  match s with
  | e :: rest =>
    if e == 'e' || e == 'E' then
      match rest with
      | sign :: more =>
        if sign == '+' || sign == '-' then
          (readDigits? more).map fun r =>
            ((r.map fun ds => e :: sign :: ds).past sign).past e
        else
          (readDigits? (sign :: more)).map fun r => (r.map (e :: ·)).past e
      | [] => none
    else some (.stay [] (e :: rest))
  | [] => some (.stay [] [])

/-- A number, as it is spelled. -/
def readNumber? (s : List Char) : Option (Reading (List Char) s) := do
  let minus := (Reading.stay () s).sign? '-'
  let body := minus.getD (.stay () s)
  let whole ← readWhole? body.rest
  let fraction ← readFraction? whole.rest
  let exponent ← readExponent? fraction.rest
  let sign := if minus.isSome then ['-'] else []
  let spelled := exponent.map (sign ++ whole.value ++ fraction.value ++ ·)
  pure (body.andThen (whole.andThen (fraction.andThen spelled)))

/-! ### Values -/

/-- The rest behind a given word at the front. -/
def readWord? (word : List Char) (s : List Char) : Option (Reading Unit s) :=
  if word.isPrefixOf s then some ⟨(), s.drop word.length, by simp⟩ else none

/-- A value that holds no other. -/
def readScalar? (s : List Char) : Option (Reading Json s) :=
  match s with
  | [] => none
  | c :: rest =>
    if c == 'n' then (readWord? ['n', 'u', 'l', 'l'] (c :: rest)).map fun r => r.map fun _ => .null
    else if c == 't' then
      (readWord? ['t', 'r', 'u', 'e'] (c :: rest)).map fun r => r.map fun _ => .bool true
    else if c == 'f' then
      (readWord? ['f', 'a', 'l', 's', 'e'] (c :: rest)).map fun r => r.map fun _ => .bool false
    else if c == '"' then (readString? rest).map fun r => (r.map .string).past c
    else (readNumber? (c :: rest)).map fun r => r.map .number

mutual

/-- A value with blanks in front of it. -/
def readValue? (s : List Char) : Option (Reading Json s) :=
  match (skipped s).take? with
  | none => none
  | some c =>
    have := c.lt
    let behind := c.toReading.andThen (skipped c.rest)
    if c.value == '[' then
      match behind.sign? ']' with
      | some close => some (close.map fun _ => .array [])
      | none => (readItems? c.rest).map fun r => c.toReading.andThen (r.map .array)
    else if c.value == '{' then
      match behind.sign? '}' with
      | some close => some (close.map fun _ => .object [])
      | none => (readFields? c.rest).map fun r => c.toReading.andThen (r.map .object)
    else (readScalar? (skip s)).map fun r => (skipped s).andThen r
termination_by 2 * s.length
decreasing_by all_goals omega

/-- One or more items with commas between them, and the bracket behind them. -/
def readItems? (s : List Char) : Option (Reading (List Json) s) :=
  match readValue? s with
  | none => none
  | some item =>
    match (item.andThen (skipped item.rest)).take? with
    | none => none
    | some c =>
      have := c.lt
      if c.value == ']' then some (c.toReading.map fun _ => [item.value])
      else if c.value == ',' then
        (readItems? c.rest).map fun r => c.toReading.andThen (r.map (item.value :: ·))
      else none
termination_by 2 * s.length + 1
decreasing_by all_goals omega

/-- One or more fields with commas between them, and the brace behind them. -/
def readFields? (s : List Char) : Option (Reading (List (Option String × Json)) s) :=
  match (skipped s).sign? '"' with
  | none => none
  | some quote =>
    match readString? quote.rest with
    | none => none
    | some key =>
      let named := quote.andThen key
      match (named.andThen (skipped named.rest)).sign? ':' with
      | none => none
      | some colon =>
        have := colon.le
        match readValue? colon.rest with
        | none => none
        | some value =>
          let valued := colon.andThen value
          match (valued.andThen (skipped valued.rest)).take? with
          | none => none
          | some c =>
            have := c.lt
            let field := (key.value, value.value)
            if c.value == '}' then some (c.toReading.map fun _ => [field])
            else if c.value == ',' then
              (readFields? c.rest).map fun r => c.toReading.andThen (r.map (field :: ·))
            else none
termination_by 2 * s.length + 1
decreasing_by all_goals omega

end

/-- The value that a text holds. -/
def parse? (text : String) : Option Json :=
  match readValue? text.toList with
  | none => none
  | some r => if (skip r.rest).isEmpty then some r.value else none

end PostFilter.Json
