import PostFilter.Spell.Basic

/-!
# Clauses

A clause is a spell or a group in parentheses. A group is a list of members; each member carries the
joiner that stands between it and the next one, and that of the last member says nothing and is
`or`. There is no precedence: a group is read strictly from left to right.

The same types hold a rule list as it was written and its canonical form.
-/

namespace PostFilter

/-- The operator between two members. -/
inductive Joiner where
  | and
  | or
  deriving DecidableEq, Repr, Inhabited

/-- The sign of a joiner. -/
def Joiner.sign : Joiner → Char
  | .and => '&'
  | .or => '|'

mutual

/-- A spell, or an expression in parentheses. -/
inductive Clause where
  | spell (spell : Spell)
  | group (group : Group)

/-- An expression: a negation, perhaps, and members joined from left to right. -/
structure Group where
  negated : Bool
  members : List Member

/-- A clause, and the joiner between it and the next member. -/
structure Member where
  clause : Clause
  joiner : Joiner

end

namespace Clause

/-- Whether the clause is written with `!`. -/
def isNegated : Clause → Bool
  | .spell s => s.negated
  | .group g => g.negated

/-- The opposite clause. -/
def negate : Clause → Clause
  | .spell s => .spell s.negate
  | .group g => .group ⟨!g.negated, g.members⟩

/-- The opposite clause when `negated`, else the clause itself. -/
def negateIf (negated : Bool) (c : Clause) : Clause := if negated then c.negate else c

/-- The value of a clause that is an unscoped `#all` or `!#all`. -/
def constant? : Clause → Option Bool
  | .spell s => s.constant?
  | .group _ => none

/-- The clause with a constant value. -/
def constant (value : Bool) : Clause := .spell (Spell.constant value)

end Clause

namespace Group

/-- The group without members. -/
def empty : Group := ⟨false, []⟩

/-- The group with one more member; `joiner` stands between it and the member that was last. -/
def push (g : Group) (joiner : Joiner) (c : Clause) : Group :=
  ⟨g.negated, pushMember g.members⟩
where
  /-- The members with one more. -/
  pushMember : List Member → List Member
    | [] => [⟨c, .or⟩]
    | [last] => [⟨last.clause, joiner⟩, ⟨c, .or⟩]
    | m :: n :: rest => m :: pushMember (n :: rest)

/-- Members that are all joined in the same way. -/
def chainMembers (joiner : Joiner) : List Clause → List Member
  | [] => []
  | [c] => [⟨c, .or⟩]
  | c :: d :: rest => ⟨c, joiner⟩ :: chainMembers joiner (d :: rest)

/-- The group that joins all clauses in the same way. -/
def chain (joiner : Joiner) (cs : List Clause) : Group := ⟨false, chainMembers joiner cs⟩

/-- The group of one clause. -/
def single (c : Clause) : Group := chain .or [c]

/-- The clauses of the members. -/
def clauses (g : Group) : List Clause := g.members.map Member.clause

end Group

mutual

/-- Every spell of a clause, from left to right. -/
def Clause.spells : Clause → List Spell
  | .spell s => [s]
  | .group g => g.spells

/-- Every spell of a group, from left to right. -/
def Group.spells : Group → List Spell
  | ⟨_, members⟩ => Group.memberSpells members

/-- Every spell of a list of members, from left to right. -/
def Group.memberSpells : List Member → List Spell
  | [] => []
  | ⟨c, _⟩ :: rest => c.spells ++ Group.memberSpells rest

end

end PostFilter
