import PostFilter.Clause.Order

/-!
# Clauses — equality

Equality as it is computed: along both clauses at once, field by field, without a look at the order.
Two patterns are equal when their sources and flags are; what they have been compiled to is not
looked at.

* `Clause.equals` — whether two clauses are equal.
* `Clause.dropEqual` — a list without the clauses that equal the one that is kept before them.

The order has an equality of its own, `Clause.same`, with which `Clause.dropRepeats` works.
-/

namespace PostFilter

mutual

/-- Whether two clauses are equal. -/
def Clause.equals : Clause → Clause → Bool
  | .spell a, .spell b => a == b
  | .group g, .group h => g.equals h
  | .spell _, .group _ | .group _, .spell _ => false

/-- Whether two groups are equal: in negation and in members. -/
def Group.equals : Group → Group → Bool
  | ⟨n, ms⟩, ⟨n', ms'⟩ => n == n' && Group.equalMembers ms ms'

/-- Whether two lists of members are equal: as long, with equal clauses and joiners in turn. -/
def Group.equalMembers : List Member → List Member → Bool
  | [], [] => true
  | ⟨c, j⟩ :: rest, ⟨c', j'⟩ :: rest' =>
    c.equals c' && j == j' && Group.equalMembers rest rest'
  | [], _ :: _ | _ :: _, [] => false

end

/-- Keeps the first of each run of equal clauses. -/
def Clause.dropEqual (cs : List Clause) : List Clause := cs.eraseRepsBy Clause.equals

end PostFilter
