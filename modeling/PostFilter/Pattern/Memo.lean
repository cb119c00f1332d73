import PostFilter.Pattern.Basic
import Std.Data.HashMap

/-!
# Patterns — memo

The same literal is needed many times, so patterns that were read once are kept under the source and
the letters with which they were asked for. The memo is bounded: when it is full, it starts over.
What could not be read is not kept.
-/

namespace PostFilter

namespace Pattern

/-- The first letter that may not stand behind the closing slash. -/
def unsupported? (letters : String) : Option Char :=
  letters.toList.find? fun c => !supportedFlags.contains c

/-- Reads a pattern, its letters being taken as given: the first unsupported one is reported. -/
def readLetters (source letters : String) : Except Fault Pattern :=
  match unsupported? letters with
  | some c => .error (.flagUnsupported c)
  | none => ofFlags source (Flags.setBy letters.toList)

end Pattern

/-- Patterns that were read, by source and letters. -/
structure PatternMemo where
  entries : Std.HashMap (String × String) Pattern

namespace PatternMemo

/-- The number of patterns that a memo keeps. -/
def capacity : Nat := 512

/-- The memo without patterns. -/
def empty : PatternMemo := ⟨∅⟩

/-- The number of patterns kept. -/
def size (m : PatternMemo) : Nat := m.entries.size

/-- Keeps one more pattern; a full memo starts over. -/
def insert (m : PatternMemo) (key : String × String) (p : Pattern) : PatternMemo :=
  ⟨(if capacity ≤ m.entries.size then ∅ else m.entries).insert key p⟩

/-- The pattern of a source and letters, from the memo or read anew. -/
def read (m : PatternMemo) (source letters : String) :
    Except Pattern.Fault Pattern × PatternMemo :=
  match Pattern.unsupported? letters with
  | some c => (.error (.flagUnsupported c), m)
  | none =>
    match m.entries[(source, letters)]? with
    | some p => (.ok p, m)
    | none =>
      match Pattern.ofFlags source (Pattern.Flags.setBy letters.toList) with
      | .error fault => (.error fault, m)
      | .ok p => (.ok p, m.insert (source, letters) p)

/-- Reads several patterns without letters, one after another. -/
def readAll (m : PatternMemo) (sources : List String) : PatternMemo :=
  sources.foldl (fun m source => (m.read source "").2) m

/-- One use of a memo. -/
inductive Step where
  | read (source letters : String)
  | clear

/-- What a step makes of a memo. -/
def apply (m : PatternMemo) : Step → PatternMemo
  | .read source letters => (m.read source letters).2
  | .clear => empty

/-- The memo after some steps. -/
def after (steps : List Step) : PatternMemo := steps.foldl apply empty

end PatternMemo

end PostFilter
