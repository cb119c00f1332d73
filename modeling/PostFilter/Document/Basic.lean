import PostFilter.Clause.Basic
import PostFilter.Replacement.Basic

/-!
# Documents

A document is a rule list as it was written: the filter, whose members are the statements that hold
spells, and the two lists of replacement rules. Without such a statement there is no filter.
-/

namespace PostFilter

/-- A rule list. -/
structure Document where
  filter : Option Group := none
  incoming : List Replacement := []
  outgoing : List Replacement := []

/-- One statement of a rule list. -/
inductive Statement where
  | clause (clause : Clause)
  | replacement (direction : Direction) (rule : Replacement)

namespace Statement

/-- The clause of a statement that holds spells. -/
def clause? : Statement → Option Clause
  | .clause c => some c
  | .replacement .. => none

/-- The rule of a statement that declares a replacement in the given direction. -/
def replacement? (direction : Direction) : Statement → Option Replacement
  | .clause _ => none
  | .replacement d rule => if d = direction then some rule else none

end Statement

namespace Document

/-- The filter that joins clauses by `or`; there is none without clauses. -/
def filterOf : List Clause → Option Group
  | [] => none
  | cs => some (Group.chain .or cs)

/-- The document of a list of statements. -/
def ofStatements (statements : List Statement) : Document where
  filter := filterOf (statements.filterMap Statement.clause?)
  incoming := statements.filterMap (Statement.replacement? .incoming)
  outgoing := statements.filterMap (Statement.replacement? .outgoing)

end Document

end PostFilter
