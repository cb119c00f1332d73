import PostFilter.Text.Numeral

/-!
# Spells — scopes and places

A scope restricts a spell or a replacement rule to a board and, if wanted, to its front pages or to
one of its threads. A place is where the reader is. `Place.admits` says whether a scope covers a
place; what has no scope is admitted everywhere.
-/

namespace PostFilter

/-- The thread part of a scope. -/
inductive ThreadScope where
  /-- Anywhere on the board. -/
  | anywhere
  /-- Outside any thread. -/
  | boardOnly
  /-- Inside one thread. -/
  | thread (number : UInt64)
  deriving DecidableEq, Repr

/-- Where a spell or a replacement rule applies. -/
structure Scope where
  board : String
  thread : ThreadScope
  deriving DecidableEq, Repr

/-- Where the reader is. -/
structure Place where
  board : Option String := none
  thread : Option UInt64 := none
  deriving DecidableEq, Repr, Inhabited

namespace ThreadScope

/-- Scopes are ordered: anywhere, front pages, threads by number. -/
def compare : ThreadScope → ThreadScope → Ordering
  | .anywhere, .anywhere => .eq
  | .anywhere, _ => .lt
  | .boardOnly, .anywhere => .gt
  | .boardOnly, .boardOnly => .eq
  | .boardOnly, .thread _ => .lt
  | .thread m, .thread n => Ord.compare m n
  | .thread _, _ => .gt

end ThreadScope

namespace Scope

/-- Whether the scope covers a place. -/
def covers (scope : Scope) (place : Place) : Bool :=
  place.board == some scope.board &&
    match scope.thread with
    | .anywhere => true
    | .boardOnly => place.thread.isNone
    | .thread n => place.thread == some n

/-- The scope as it is written. -/
def text (scope : Scope) : String :=
  match scope.thread with
  | .anywhere => "[" ++ scope.board ++ "]"
  | .boardOnly => "[" ++ scope.board ++ ",-]"
  | .thread n => "[" ++ scope.board ++ "," ++ Text.decimal n.toNat ++ "]"

/-- Scopes are ordered by board, then by thread part. -/
def compare (a b : Scope) : Ordering :=
  (Ord.compare a.board b.board).then (a.thread.compare b.thread)

end Scope

/-- Whether what has this scope applies at the place. -/
def Place.admits (place : Place) (scope : Option Scope) : Bool := scope.all fun s => s.covers place

/-- Whether what has this scope applies; without a place everything does. -/
def admitsAt (place : Option Place) (scope : Option Scope) : Bool :=
  place.all fun p => p.admits scope

end PostFilter
