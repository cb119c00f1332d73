import PostFilter.Clause.Basic

/-!
# Verdicts — outcomes

An outcome is a value together with the spells that decided it. A spell decides itself. Where two
outcomes are joined, the side that alone forces the value is kept; where both are needed for it,
both traces are kept, the first one first.

A verdict is what becomes of the outcome of a whole filter.
-/

namespace PostFilter

/-- A value, and the spells that decided it in the order in which they were looked at. -/
structure Outcome where
  value : Bool
  trace : List Spell
  deriving DecidableEq

/-- An outcome, and whether a lookup failed on the way to it. -/
structure Finding where
  outcome : Outcome
  degraded : Bool
  deriving DecidableEq

/-- Whether a post is hidden, and the spells that decided it. -/
structure Verdict where
  matched : Bool := false
  triggered : List Spell := []
  deriving DecidableEq

namespace Outcome

/-- The outcome of nothing. -/
def nothing : Outcome := ⟨false, []⟩

/-- Whether the value stays what it is, whatever is joined next. -/
def settles (o : Outcome) : Joiner → Bool
  | .and => !o.value
  | .or => o.value

/-- Joins an outcome with the next one. -/
def join (o : Outcome) (joiner : Joiner) (next : Outcome) : Outcome :=
  if o.settles joiner then o
  else if next.settles joiner then next
  else ⟨o.value, o.trace ++ next.trace⟩

/-- Joins what was found so far, if anything, with the next outcome. -/
def joinTo (found : Option Outcome) (joiner : Joiner) (next : Outcome) : Outcome :=
  match found with
  | none => next
  | some o => o.join joiner next

/-- The outcome with the opposite value if `negated`. -/
def negateIf (negated : Bool) (o : Outcome) : Outcome := ⟨o.value != negated, o.trace⟩

end Outcome

namespace Verdict

/-- The verdict that an outcome means. -/
def ofOutcome (o : Outcome) : Verdict := ⟨o.value, o.trace⟩

/-- Why a post is hidden: the deciding spells with ampersands between them. -/
def reason? (v : Verdict) : Option String :=
  if !v.matched || v.triggered.isEmpty then none
  else some (" & ".intercalate (v.triggered.map Spell.text))

end Verdict

end PostFilter
