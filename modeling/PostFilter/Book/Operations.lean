import PostFilter.Book.QuickHide

/-!
# Rule books — operations

What may be done with a book, one operation after another. An operation that fails leaves the book
as it is.
-/

namespace PostFilter

/-- What may be done with a book. -/
inductive BookOperation where
  | replace (source : String)
  | append (clause : Clause)
  | hideName (name : String) (scope : Option Scope)
  | hidePattern (rule : PatternRule)

namespace RuleBook

/-- The book that an operation makes of a book. -/
def perform (b : RuleBook) (timestamp : UInt64) : BookOperation → Except SourceFault RuleBook
  | .replace source => (b.replace source timestamp).map Prod.snd
  | .append c => (b.append c timestamp).map Prod.snd
  | .hideName name scope => (b.hideName name scope timestamp).map Prod.snd
  | .hidePattern rule => (b.hidePattern rule timestamp).map Prod.snd

/-- The book behind an operation. -/
def next (b : RuleBook) (operation : BookOperation × UInt64) : RuleBook :=
  match b.perform operation.2 operation.1 with
  | .ok b' => b'
  | .error _ => b

/-- The book behind some operations, each with its stamp. -/
def after (b : RuleBook) (operations : List (BookOperation × UInt64)) : RuleBook :=
  operations.foldl next b

end RuleBook

end PostFilter
