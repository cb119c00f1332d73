import PostFilter.Clause.Basic

/-!
# Clauses — value at a place

A valuation says of every predicate whether it is true; negations are not its business. Under one, a
clause has a value at a place, unless it is absent there: a spell is absent where its scope does not
apply, and a group where all its members are. Members are joined strictly from left to right. An
absent member is passed over together with the joiner before it.

This is what a rule means, said without any reshaping or short cut.
-/

namespace PostFilter

/-- Whether each predicate is true. -/
abbrev Valuation := Kind → Option Argument → Option Scope → Bool

/-- The value of a spell: that of its predicate, or the opposite if it is negated. -/
def Valuation.ofSpell (v : Valuation) (s : Spell) : Bool :=
  v s.kind s.argument s.scope != s.negated

/-- Whether the valuation has `#all` true, also where a spell of the group has an argument with
it. -/
def Valuation.HasAllTrue (v : Valuation) (g : Group) : Prop :=
  v .all none none = true ∧
    ∀ s ∈ g.spells, s.kind = .all → s.scope = none → v .all s.argument none = true

/-- Joins two values. -/
def Joiner.apply : Joiner → Bool → Bool → Bool
  | .and, a, b => a && b
  | .or, a, b => a || b

/-- Joins two values, either of which may be absent. -/
def Joiner.applyPresent (joiner : Joiner) : Option Bool → Option Bool → Option Bool
  | a, none => a
  | none, some b => some b
  | some a, some b => some (joiner.apply a b)

mutual

/-- The value of a clause at a place, unless it is absent there. -/
def Clause.value? (v : Valuation) (place : Option Place) : Clause → Option Bool
  | .spell s => if admitsAt place s.scope then some (v.ofSpell s) else none
  | .group g => g.value? v place

/-- The value of a group at a place, unless it is absent there. -/
def Group.value? (v : Valuation) (place : Option Place) : Group → Option Bool
  | ⟨negated, members⟩ =>
    (Group.foldValue? v place none .or members).map fun value => value != negated

/-- The value of members behind the value `found`; `link` is the joiner before them. -/
def Group.foldValue? (v : Valuation) (place : Option Place) (found : Option Bool)
    (link : Joiner) : List Member → Option Bool
  | [] => found
  | ⟨c, joiner⟩ :: rest =>
    Group.foldValue? v place (link.applyPresent found (c.value? v place)) joiner rest

end

mutual

/-- Whether every group in the clause has members. -/
def Clause.IsInhabited : Clause → Prop
  | .spell _ => True
  | .group g => g.IsInhabited

/-- Whether the group and every group in it have members. -/
def Group.IsInhabited : Group → Prop
  | ⟨_, members⟩ => members ≠ [] ∧ Group.AllInhabited members

/-- Whether every group in the members has members. -/
def Group.AllInhabited : List Member → Prop
  | [] => True
  | ⟨c, _⟩ :: rest => c.IsInhabited ∧ Group.AllInhabited rest

end

end PostFilter
