import PostFilter.Json.Basic

/-!
# JSON — decoding

Readers of typed values. Arrays, objects and tagged values may be nested only so deep: a reader is
given the number of levels that are left, and one that enters a level needs two of them. What a
reader skips is not counted.

A record is an object with its fields in any order, or an array of all of them in the order of
declaration. Unknown fields are skipped; a known one must not be given twice.
-/

namespace PostFilter.Json

open Text

/-- The levels of nesting that a document may have. -/
def nestLimit : Nat := 128

/-- A reader of a type, given the levels that are left. -/
abbrev Decoder (α : Type) := (levels : Nat) → Json → Option α

/-- Enters one level. -/
def nested {α : Type} (inner : Decoder α) : Decoder α
  | levels + 2, v => inner (levels + 1) v
  | _, _ => none

def decodeBool : Decoder Bool
  | _, .bool b => some b
  | _, _ => none

def decodeString : Decoder String
  | _, .string s => s
  | _, _ => none

/-- A whole number without sign below `bound`. -/
def decodeNat (bound : Nat) : Decoder Nat
  | _, .number spelling => (decimalValue? spelling).filter fun n => n < bound
  | _, _ => none

def decodeUInt64 : Decoder UInt64 := fun levels v =>
  (decodeNat UInt64.size levels v).map UInt64.ofNat

def decodeUInt32 : Decoder UInt32 := fun levels v =>
  (decodeNat UInt32.size levels v).map UInt32.ofNat

/-- Null is nothing. -/
def decodeOption {α : Type} (inner : Decoder α) : Decoder (Option α)
  | _, .null => some none
  | levels, v => (inner levels v).map some

/-- The items of an array, all of one type. -/
def decodeList {α : Type} (inner : Decoder α) : Decoder (List α) :=
  nested fun levels v =>
    match v with
    | .array items => items.mapM (inner levels)
    | _ => none

/-! ### Records -/

/-- The values of a field in an object. -/
def fieldValues (name : String) (fields : List (Option String × Json)) : List Json :=
  fields.filterMap fun (key, value) => if key == some name then some value else none

/-- The values of the named fields of a record, in order; a field may be missing from an object. -/
def recordFields? (names : List String) : Json → Option (List (Option Json))
  | .array items => if items.length = names.length then some (items.map some) else none
  | .object fields =>
    if fields.any fun f => f.1.isNone then none
    else
      names.mapM fun name =>
        match fieldValues name fields with
        | [] => some none
        | [value] => some (some value)
        | _ => none
  | _ => none

/-- A record: `inner` is given the values of the named fields. -/
def decodeRecord {α : Type} (names : List String)
    (inner : (levels : Nat) → List (Option Json) → Option α) : Decoder α :=
  nested fun levels v =>
    match recordFields? names v with
    | none => none
    | some values => inner levels values

/-- A field that must be there. -/
def required {α : Type} (inner : Decoder α) (levels : Nat) (value : Option Json) : Option α :=
  value.bind (inner levels)

/-- A field that may be missing or null. -/
def optional {α : Type} (inner : Decoder α) (levels : Nat) (value : Option Json) :
    Option (Option α) :=
  match value with
  | none => some none
  | some v => decodeOption inner levels v

/-! ### Tagged values -/

/-- A tag alone: a string, or an object that gives the tag null. -/
def decodeTag {α : Type} (tag? : String → Option α) : Decoder α
  | _, .string (some s) => tag? s
  | _ + 2, .object [(some s, .null)] => tag? s
  | _, _ => none

/-- A tag with a value: an object of one field. -/
def decodeTagged {α : Type} (inner : String → Decoder α) : Decoder α
  | levels + 2, .object [(some tag, value)] => inner tag (levels + 1) value
  | _, _ => none

end PostFilter.Json
