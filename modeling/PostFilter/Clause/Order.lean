import PostFilter.Clause.Basic

/-!
# Clauses — order

Spells come before groups. Groups are ordered by negation, then member by member; members by clause,
then by joiner, `and` first.
-/

namespace PostFilter

/-- The place of a joiner in the order. -/
def Joiner.rank : Joiner → Nat
  | .and => 0
  | .or => 1

/-- Joiners are ordered by rank. -/
def Joiner.compare (a b : Joiner) : Ordering := Ord.compare a.rank b.rank

mutual

/-- The order of clauses. -/
def Clause.compare : Clause → Clause → Ordering
  | .spell a, .spell b => a.compare b
  | .spell _, .group _ => .lt
  | .group _, .spell _ => .gt
  | .group g, .group h => g.compare h

/-- The order of groups. -/
def Group.compare : Group → Group → Ordering
  | ⟨n, ms⟩, ⟨n', ms'⟩ => (Ord.compare n n').then (Group.compareMembers ms ms')

/-- The order of lists of members. -/
def Group.compareMembers : List Member → List Member → Ordering
  | [], [] => .eq
  | [], _ :: _ => .lt
  | _ :: _, [] => .gt
  | ⟨c, j⟩ :: rest, ⟨c', j'⟩ :: rest' =>
    ((c.compare c').then (j.compare j')).then (Group.compareMembers rest rest')

end

/-- Whether two clauses are the same. -/
def Clause.same (a b : Clause) : Bool := a.compare b == .eq

/-- Leaves one of each run of equal neighbours. -/
def Clause.dropRepeats : List Clause → List Clause
  | [] => []
  | [c] => [c]
  | c :: d :: rest =>
    if c.same d then Clause.dropRepeats (d :: rest) else c :: Clause.dropRepeats (d :: rest)

/-- Clauses in order. -/
def Clause.sort (cs : List Clause) : List Clause := cs.mergeSort fun a b => a.compare b != .gt

/-- Clauses in order, each once. -/
def Clause.sortDistinct (cs : List Clause) : List Clause := Clause.dropRepeats (Clause.sort cs)

end PostFilter
