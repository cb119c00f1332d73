import PostFilter.Json.Basic

/-!
# JSON — the shape of values

How deep arrays and objects are nested in a value, and which values are plain: their strings are
readable, and their numbers have neither sign nor fraction nor exponent.
-/

namespace PostFilter.Json

mutual

/-- How deep arrays and objects are nested in a value. -/
def depth : Json → Nat
  | .array items => itemsDepth items + 1
  | .object fields => fieldsDepth fields + 1
  | _ => 0

/-- How deep they are nested in some item. -/
def itemsDepth : List Json → Nat
  | [] => 0
  | item :: rest => max item.depth (itemsDepth rest)

/-- How deep they are nested in the value of some field. -/
def fieldsDepth : List (Option String × Json) → Nat
  | [] => 0
  | (_, value) :: rest => max value.depth (fieldsDepth rest)

end

mutual

/-- Whether strings are readable, and numbers whole and without sign. -/
def IsPlain : Json → Prop
  | .null | .bool _ => True
  | .number spelling => ∃ n, spelling = Text.decimalDigits n
  | .string s => s.isSome
  | .array items => ItemsPlain items
  | .object fields => FieldsPlain fields

/-- Whether every item is plain. -/
def ItemsPlain : List Json → Prop
  | [] => True
  | item :: rest => item.IsPlain ∧ ItemsPlain rest

/-- Whether every field has a readable key and a plain value. -/
def FieldsPlain : List (Option String × Json) → Prop
  | [] => True
  | (key, value) :: rest => key.isSome ∧ value.IsPlain ∧ FieldsPlain rest

end

end PostFilter.Json
