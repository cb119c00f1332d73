import PostFilter.CharSet.Basic

/-!
# Patterns — expressions

`Expr` is a regular expression with every name and switch resolved: single characters, sets, looks
at the neighbouring characters, and the operators.
-/

namespace PostFilter.Pattern

/-- A condition on the characters before and after a position. -/
inductive Look where
  | textStart
  | textEnd
  | lineStart
  | lineEnd
  | lineStartCrlf
  | lineEndCrlf
  | boundary (unicode : Bool)
  | notBoundary (unicode : Bool)
  | wordStart (unicode : Bool)
  | wordEnd (unicode : Bool)
  | wordStartHalf (unicode : Bool)
  | wordEndHalf (unicode : Bool)
  deriving DecidableEq, Repr

/-- A regular expression. A capture with index `n` is the `n`-th group of the pattern, from 1 up. -/
inductive Expr where
  | empty
  | char (c : Char)
  | set (s : CharSet)
  | look (look : Look)
  | repetition (min : Nat) (max : Option Nat) (greedy : Bool) (sub : Expr)
  | capture (index : Nat) (name : Option String) (sub : Expr)
  | concat (parts : List Expr)
  | alternation (branches : List Expr)

/-- `sub` repeated. Nothing remains of a part that is repeated no times, its captures included. -/
def Expr.repeated (min : Nat) (max : Option Nat) (greedy : Bool) (sub : Expr) : Expr :=
  if max == some 0 then .empty else .repetition min max greedy sub

mutual

/-- Whether every match takes at least one character. -/
def Expr.takesChar : Expr → Bool
  | .empty | .look _ => false
  | .char _ => true
  | .set s => !s.ranges.isEmpty
  | .repetition min _ _ sub => min != 0 && sub.takesChar
  | .capture _ _ sub => sub.takesChar
  | .concat parts => Expr.anyTakesChar parts
  | .alternation branches => Expr.allTakeChar branches

/-- Whether some part always takes a character. -/
def Expr.anyTakesChar : List Expr → Bool
  | [] => false
  | part :: rest => part.takesChar || Expr.anyTakesChar rest

/-- Whether every branch always takes a character. -/
def Expr.allTakeChar : List Expr → Bool
  | [] => true
  | branch :: rest => branch.takesChar && Expr.allTakeChar rest

end

mutual

/-- The captures of an expression with their names, in order. -/
def Expr.captures : Expr → List (Nat × Option String)
  | .repetition _ _ _ sub => sub.captures
  | .capture index name sub => (index, name) :: sub.captures
  | .concat parts => Expr.capturesOf parts
  | .alternation branches => Expr.capturesOf branches
  | _ => []

/-- The captures of a list of expressions. -/
def Expr.capturesOf : List Expr → List (Nat × Option String)
  | [] => []
  | expr :: rest => expr.captures ++ Expr.capturesOf rest

end

end PostFilter.Pattern
