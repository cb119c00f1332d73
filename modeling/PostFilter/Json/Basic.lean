import PostFilter.Text.Numeral

/-!
# JSON — values and their text

A JSON value as far as stored documents need it. A number is kept as it is spelled. A string whose
escapes do not form characters (half of a surrogate pair) is kept as unreadable, `string none`: such
a string may stand where nobody reads it.

`Json.text` writes a value without blanks. In strings the quote, the backslash and control
characters are escaped, everything else stands for itself.
-/

namespace PostFilter

/-- A JSON value. -/
inductive Json where
  | null
  | bool (value : Bool)
  | number (spelling : List Char)
  | string (text : Option String)
  | array (items : List Json)
  | object (fields : List (Option String × Json))
  deriving Inhabited

namespace Json

/-- A readable string. -/
def ofString (s : String) : Json := .string (some s)

/-- A number without sign, fraction and exponent. -/
def ofNat (n : Nat) : Json := .number (Text.decimalDigits n)

/-- A 64-bit number. -/
def ofUInt64 (n : UInt64) : Json := ofNat n.toNat

/-- An object whose keys are readable. -/
def ofFields (fields : List (String × Json)) : Json :=
  .object (fields.map fun (key, value) => (some key, value))

/-- What is absent is null. -/
def ofOption {α : Type} (encode : α → Json) : Option α → Json
  | none => .null
  | some a => encode a

/-- A character as it stands in a string. -/
def escapeChar (c : Char) : List Char :=
  if c == '"' then ['\\', '"']
  else if c == '\\' then ['\\', '\\']
  else if c.toNat < 32 then
    if c.toNat == 8 then ['\\', 'b']
    else if c.toNat == 9 then ['\\', 't']
    else if c.toNat == 10 then ['\\', 'n']
    else if c.toNat == 12 then ['\\', 'f']
    else if c.toNat == 13 then ['\\', 'r']
    else '\\' :: 'u' :: Text.hexDigits 4 c.toNat
  else [c]

/-- A string in quotes. -/
def quote (s : String) : List Char := '"' :: (s.toList.flatMap escapeChar ++ ['"'])

/-- A string in quotes; an unreadable one is written as half of a surrogate pair. -/
def quote? : Option String → List Char
  | some s => quote s
  | none => '"' :: '\\' :: 'u' :: 'd' :: '8' :: '0' :: '0' :: ['"']

mutual

/-- The characters of a value. -/
def chars : Json → List Char
  | .null => ['n', 'u', 'l', 'l']
  | .bool true => ['t', 'r', 'u', 'e']
  | .bool false => ['f', 'a', 'l', 's', 'e']
  | .number spelling => spelling
  | .string s => quote? s
  | .array items => '[' :: itemChars items
  | .object fields => '{' :: fieldChars fields

/-- The characters of items, and the bracket behind them. -/
def itemChars : List Json → List Char
  | [] => [']']
  | [item] => item.chars ++ [']']
  | item :: next :: rest => item.chars ++ ',' :: itemChars (next :: rest)

/-- The characters of fields, and the brace behind them. -/
def fieldChars : List (Option String × Json) → List Char
  | [] => ['}']
  | [(key, value)] => quote? key ++ ':' :: (value.chars ++ ['}'])
  | (key, value) :: next :: rest =>
    quote? key ++ ':' :: (value.chars ++ ',' :: fieldChars (next :: rest))

end

/-- A value as text. -/
def text (v : Json) : String := String.ofList v.chars

end Json

end PostFilter
