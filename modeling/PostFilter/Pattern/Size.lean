import PostFilter.Pattern.Expr

/-!
# Patterns — size

A pattern whose repetitions multiply into a machine that is too large is refused. `Expr.size` is an
estimate of that machine in bytes, made without building it, and no bound on it: what a state takes
depends on how an engine lays its states out and shares them. So a pattern near the limit may be
refused here that an engine with the same limit accepts, or the other way round; what multiplies far
beyond the limit is refused by both.
-/

namespace PostFilter.Pattern

/-- Bytes that are reckoned for one state of the machine. -/
def stateSize : Nat := 32

/-- Bytes that are reckoned for a state that chooses among `n` others. -/
def choiceSize (n : Nat) : Nat := stateSize + 4 * n

/-- Bytes that are reckoned for the states of one set: ASCII sets take one state, others a tree over
their encoded forms. -/
def setSize (s : CharSet) : Nat :=
  let n := s.ranges.size
  if s.isAscii then if n ≤ 1 then stateSize else stateSize + 8 * n else 300 + 40 * n

mutual

/-- An estimate of the bytes of the machine of an expression. -/
def Expr.size : Expr → Nat
  | .empty => 0
  | .char c => stateSize * c.utf8Size
  | .set s => setSize s
  | .look _ => stateSize
  | .capture _ _ sub => 2 * stateSize + sub.size
  | .concat parts => Expr.sizeOf parts
  | .alternation branches => choiceSize branches.length + stateSize + Expr.sizeOf branches
  | .repetition min max _ sub =>
    match max with
    | some m => min * sub.size + (m - min) * (sub.size + choiceSize 2)
    | none => Nat.max min 1 * sub.size + 2 * choiceSize 2

/-- An estimate of the bytes of the machines of a list of expressions. -/
def Expr.sizeOf : List Expr → Nat
  | [] => 0
  | expr :: rest => expr.size + Expr.sizeOf rest

end

/-- The largest estimate that is accepted, in bytes. -/
def sizeLimit : Nat := 10485760

end PostFilter.Pattern
