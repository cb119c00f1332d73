import PostFilter.Spell.Argument
import PostFilter.Spell.Kind
import PostFilter.Spell.Scope

/-!
# Spells

A spell is a kind, an argument, a scope and perhaps a negation. Spells are ordered by these four in
turn.
-/

namespace PostFilter

/-- One predicate on posts, as a rule states it. -/
structure Spell where
  kind : Kind
  argument : Option Argument := none
  scope : Option Scope := none
  negated : Bool := false
  deriving DecidableEq

namespace Spell

/-- The opposite spell. -/
def negate (s : Spell) : Spell := { s with negated := !s.negated }

/-- The value of `#all` and `!#all`, if they have no scope. -/
def constant? (s : Spell) : Option Bool :=
  if s.kind = .all && s.scope.isNone then some (!s.negated) else none

/-- The spell with a constant value. -/
def constant (value : Bool) : Spell := { kind := .all, negated := !value }

/-- The spell as it is written. -/
def text (s : Spell) : String :=
  (if s.negated then "!" else "") ++ s.kind.text ++ (s.scope.map Scope.text).getD "" ++
    (s.argument.map fun a => "(" ++ a.written ++ ")").getD ""

/-- Spells are ordered by kind, argument, scope and negation. -/
def compare (a b : Spell) : Ordering :=
  (a.kind.compare b.kind).then
    ((compareOptions Argument.compare a.argument b.argument).then
      ((compareOptions Scope.compare a.scope b.scope).then
        (Ord.compare a.negated b.negated)))

end Spell

end PostFilter
