import PostFilter.Clause.Basic

/-!
# Clauses — rearranged

A group of one joiner says the same in whatever order its members stand, however often one of them
is repeated, and whether or not some that stand side by side have parentheses of their own.
`Clause.Rearranged` relates clauses that come from one another by such changes, made to any group at
any depth.
-/

namespace PostFilter

/-- Whether the members are these clauses, all joined in the same way. The joiner behind the last
one joins nothing and may be any. -/
structure Group.Joins (joiner : Joiner) (cs : List Clause) (members : List Member) : Prop where
  clauses : members.map Member.clause = cs
  joiners : ∀ m ∈ members.dropLast, m.joiner = joiner

/-- Whether a clause comes from another one by changes that joiners do not care about. -/
inductive Clause.Rearranged : Clause → Clause → Prop where
  /-- The members of a group change their order. -/
  | permute {joiner : Joiner} {negated : Bool} {cs cs' : List Clause}
      {members members' : List Member} (joins : Group.Joins joiner cs members)
      (joins' : Group.Joins joiner cs' members') (perm : cs.Perm cs') :
      Rearranged (.group ⟨negated, members⟩) (.group ⟨negated, members'⟩)
  /-- A member of a group is repeated. -/
  | duplicate {joiner : Joiner} {negated : Bool} {c : Clause} {before after : List Clause}
      {members members' : List Member} (joins : Group.Joins joiner (before ++ c :: after) members)
      (joins' : Group.Joins joiner (before ++ c :: c :: after) members') :
      Rearranged (.group ⟨negated, members⟩) (.group ⟨negated, members'⟩)
  /-- Members of a group that stand side by side get parentheses of their own. -/
  | wrap {joiner : Joiner} {negated : Bool} {before run after : List Clause}
      {members inner members' : List Member}
      (joins : Group.Joins joiner (before ++ (run ++ after)) members)
      (wrapped : Group.Joins joiner run inner)
      (joins' : Group.Joins joiner (before ++ .group ⟨false, inner⟩ :: after) members') :
      Rearranged (.group ⟨negated, members⟩) (.group ⟨negated, members'⟩)
  /-- A member of a group, of whatever joiners, is rearranged. -/
  | inside {joiner : Joiner} {negated : Bool} {c d : Clause} (before after : List Member)
      (h : Rearranged c d) :
      Rearranged (.group ⟨negated, before ++ ⟨c, joiner⟩ :: after⟩)
        (.group ⟨negated, before ++ ⟨d, joiner⟩ :: after⟩)
  | refl (c : Clause) : Rearranged c c
  | symm {c d : Clause} (h : Rearranged c d) : Rearranged d c
  | trans {c d e : Clause} (h : Rearranged c d) (h' : Rearranged d e) : Rearranged c e

end PostFilter
