/-!
# Patterns — where a literal ends

A literal ends at a slash that no backslash covers and that is in no class. Whether a slash is such
a one is decided by the characters before it: `LiteralState` is what they leave. A class is told by
its brackets alone, so a bracket in the name of a group or in a comment counts as well.
-/

namespace PostFilter.Pattern

/-- What is known at a place inside a literal. -/
structure LiteralState where
  /-- Whether a backslash covers the character here. -/
  escaped : Bool := false
  /-- Whether the place is in a class. -/
  inClass : Bool := false
  deriving DecidableEq, Repr

namespace LiteralState

/-- Whether a slash here does not end the literal. -/
def isOpen (st : LiteralState) : Bool := st.escaped || st.inClass

/-- The state behind one character. -/
def next (st : LiteralState) (c : Char) : LiteralState where
  escaped := c == '\\' && !st.escaped
  inClass :=
    if st.escaped then st.inClass
    else if c == '[' then true
    else if c == ']' then false
    else st.inClass

/-- The state behind a text. -/
def after (st : LiteralState) (s : List Char) : LiteralState := s.foldl next st

/-- The state at the end of a source. -/
def ofSource (source : String) : LiteralState := after {} source.toList

end LiteralState

/-- A character of a source whose slashes are escaped. -/
inductive EscapedChar where
  /-- A character of the source. -/
  | own (c : Char)
  /-- A backslash that the source does not have. -/
  | inserted
  deriving DecidableEq, Repr

namespace EscapedChar

/-- The character as it is written. -/
def char : EscapedChar → Char
  | own c => c
  | inserted => '\\'

/-- The character of the source, unless it is inserted. -/
def own? : EscapedChar → Option Char
  | own c => some c
  | inserted => none

end EscapedChar

/-- The source with a backslash inserted before each slash that would end the literal. -/
def LiteralState.escaping (st : LiteralState) : List Char → List EscapedChar
  | [] => []
  | c :: rest =>
    let own := .own c :: (st.next c).escaping rest
    if c == '/' && !st.isOpen then .inserted :: own else own

/-- Whether no slash behind a source makes a literal of it: the source is empty, or the slash would
belong to it. -/
def IsUnended (source : String) : Prop :=
  source = "" ∨ (LiteralState.ofSource source).isOpen = true

instance (source : String) : Decidable (IsUnended source) := inferInstanceAs (Decidable (_ ∨ _))

end PostFilter.Pattern
