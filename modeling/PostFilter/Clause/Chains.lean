import PostFilter.Clause.Canonical

/-!
# Clauses — chains written out

A group that mixes joiners stands for chains inside chains. `Group.regroup` writes these out: every
group in it has one joiner, and a chain that ends inside a group is a group of its own, as in
`(a & b) | c` for `a & b | c`. The canonical form nests a group in the same way, but brings every
chain into form as soon as it ends.

A group keeps at a place if its canonical form without a place, reduced there, is its canonical form
at the place. It is exposed if it is constant there, though it is not where every scope applies: the
canonical form without a place has forgotten the constant, which changed nothing as long as there
was something else in the chain.
-/

namespace PostFilter

namespace Group

/-- Nests members from left to right into groups with one joiner each. `run` holds the members of
the chain in hand, last one first, `joiner?` its joiner once it is known, and `link` the joiner
behind it. -/
def regroupRun (negated : Bool) (run : List Clause) (joiner? : Option Joiner) (link : Joiner) :
    List (Clause × Joiner) → Group
  | [] => ⟨negated, chainMembers (joiner?.getD .or) run.reverse⟩
  | (c, next) :: rest =>
    match joiner? with
    | none => regroupRun negated (c :: run) (some link) next rest
    | some joiner =>
      if joiner = link then regroupRun negated (c :: run) (some link) next rest
      else regroupRun negated [c, .group (chain joiner run.reverse)] (some link) next rest

/-- Members as groups with one joiner each. -/
def regroupAll (negated : Bool) : List (Clause × Joiner) → Group
  | [] => ⟨negated, []⟩
  | (c, link) :: rest => regroupRun negated [c] none link rest

end Group

mutual

/-- The clause with its chains written out. -/
def Clause.regroup : Clause → Clause
  | .spell s => .spell s
  | .group g => .group g.regroup

/-- The group with its chains written out. -/
def Group.regroup : Group → Group
  | ⟨negated, members⟩ => Group.regroupAll negated (Group.regroupMembers members)

/-- The clauses of members with their chains written out, and their joiners. -/
def Group.regroupMembers : List Member → List (Clause × Joiner)
  | [] => []
  | ⟨c, joiner⟩ :: rest => (c.regroup, joiner) :: Group.regroupMembers rest

end

mutual

/-- Every group in a clause. -/
def Clause.groups : Clause → List Group
  | .spell _ => []
  | .group g => g.groups

/-- The group and every group in it. -/
def Group.groups : Group → List Group
  | ⟨negated, members⟩ => ⟨negated, members⟩ :: Group.memberGroups members

/-- Every group in a list of members. -/
def Group.memberGroups : List Member → List Group
  | [] => []
  | ⟨c, _⟩ :: rest => c.groups ++ Group.memberGroups rest

end

namespace Group

/-- The chains of a group, the whole group first. -/
def chains (g : Group) : List Group := g.regroup.groups

/-- Whether the canonical form without a place says what the group comes to at the place. -/
def KeepsAt (place : Place) (g : Group) : Prop :=
  (g.reduce none).bind (Clause.reduce (some place)) = g.reduce (some place)

/-- Whether the group is constant at the place, but not where every scope applies. -/
def isExposed (place : Place) (g : Group) : Bool :=
  (g.reduce none).any (fun c => c.constant?.isNone) &&
    (g.reduce (some place)).any fun c => c.constant?.isSome

/-- Whether some chain of the group is exposed. -/
def hasExposed (place : Place) (g : Group) : Bool := g.chains.any (isExposed place)

end Group

end PostFilter
