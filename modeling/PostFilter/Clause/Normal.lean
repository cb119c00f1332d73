import PostFilter.Clause.Chains

/-!
# Clauses — what a canonical form looks like

The conditions that a canonical form meets, said without the steps that make one. Every group in it
is joined throughout in one way, has its members in strictly increasing order, and has no member
that could give up its own members to it (`Group.IsTidy`). Constants are left only where nothing
else is (`Group.IsCanonical`).
-/

namespace PostFilter

namespace Group

/-- The joiner of a group, if it joins anything; that behind its first member. -/
def joiner? : Group → Option Joiner
  | ⟨_, m :: _ :: _⟩ => some m.joiner
  | _ => none

/-- The groups inside a group. -/
def innerGroups (g : Group) : List Group := memberGroups g.members

/-- What every group in a canonical form is like. -/
structure IsTidy (g : Group) : Prop where
  /-- All members are joined in the same way. -/
  joined : ∃ joiner, ∀ m ∈ g.members.dropLast, m.joiner = joiner
  /-- The joiner behind the last one, which says nothing, is `or`. -/
  ended : ∀ m ∈ g.members.getLast?, m.joiner = .or
  /-- The members are in order, and each is there once. -/
  increasing : g.clauses.Pairwise fun c d => c.compare d = .lt
  /-- A group among them that is not negated has the other joiner. -/
  opened : ∀ h, .group h ∈ g.clauses → h.negated = false → h.joiner? ≠ g.joiner?

/-- What the canonical form of a group, as it was written, is like at a place. -/
structure IsCanonical (g : Group) (place : Option Place) (written : Group) : Prop where
  positive : g.negated = false
  /-- The form is a spell, a negated group, or a group of several members. -/
  root : (∃ s, g = single (.spell s)) ∨ (∃ members, g = single (.group ⟨true, members⟩)) ∨
    2 ≤ g.members.length
  /-- Groups inside it have several members. -/
  several : ∀ h ∈ g.innerGroups, 2 ≤ h.members.length
  tidy : ∀ h ∈ g.groups, h.IsTidy
  /-- `#all` and `!#all` without a scope are never found beside anything else. -/
  constants : ∀ s ∈ g.spells, s.kind = .all → s.scope = none →
    ∃ value, s = Spell.constant value ∧ g = single (.spell s)
  /-- A spell applies at the place and was written, with or without its negation; only such a
  constant need not have been. -/
  spells : ∀ s ∈ g.spells, admitsAt place s.scope = true ∧
    (s ∈ written.spells ∨ s.negate ∈ written.spells ∨ ∃ value, s = Spell.constant value)

end Group

end PostFilter
