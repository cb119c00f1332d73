import PostFilter.Document.Printer
import PostFilter.Document.Reader

/-!
# Documents — well-formed

The documents whose written form says everything about them: arguments fit their kind and could be
written in one way only, scopes are over characters of board names, templates are in the stored
notation, and in a group the joiner behind the last member, which is not written, is `or`. The
outermost group is not negated.

`Document.reread` is the form that a well-formed document has once it was written and read back: a
filter that is not one statement becomes the only statement of a new one.
-/

namespace PostFilter

open Text Document

/-- The shape that an argument has. -/
def Argument.shape : Argument → ArgumentShape
  | .text _ => .text
  | .pattern _ => .pattern
  | .ranges _ => .ranges
  | .image _ => .image
  | .checks _ => .checks
  | .signature _ => .signature

/-- Whether the source of a pattern ends at the slash behind it. -/
def Pattern.IsLiteral (p : Pattern) : Prop :=
  p.source ≠ "" ∧ scanPattern false (p.source.toList ++ ['/']) = some (p.source.toList, [])

/-- Whether the lesser bound comes first. -/
def NumberRange.IsOrdered (r : NumberRange) : Prop := r.min ≤ r.max

/-- Whether the lesser bound comes first on both axes. -/
def SizeRange.IsOrdered (r : SizeRange) : Prop :=
  r.min.width ≤ r.max.width ∧ r.min.height ≤ r.max.height

/-- Whether the bound bounds something, and has proper ranges only where they can be meant. -/
structure ImageBound.IsWellFormed (b : ImageBound) : Prop where
  bounds : b.weight ≠ none ∨ b.size ≠ none
  weight : ∀ r ∈ b.weight, r.IsOrdered ∧ (r.min ≠ r.max → b.cmp = .equal)
  size : ∀ r ∈ b.size, r.IsOrdered ∧ (r.min ≠ r.max → b.cmp = .equal)

/-- Whether a set holds some of the seven checks, and nothing else. -/
def Checks.IsWellFormed (cs : Checks) : Prop := cs.bits ≠ 0 ∧ cs.bits ≤ 127

/-- Whether the argument can be written. -/
def Argument.IsWellFormed : Argument → Prop
  | .text t => t ≠ "" ∧ IsTrimmed t
  | .pattern p => p.IsLiteral
  | .ranges rs => rs ≠ [] ∧ ∀ r ∈ rs, r.IsOrdered
  | .image b => b.IsWellFormed
  | .checks cs => cs.IsWellFormed
  | .signature _ => True

/-- Whether the board is named by characters of board names. -/
def Scope.IsWellFormed (scope : Scope) : Prop :=
  scope.board ≠ "" ∧ ∀ c ∈ scope.board.toList, isBoardChar c = true

/-- Whether a kind may have this argument, or have none. -/
def Kind.Takes (kind : Kind) : Option Argument → Prop
  | none => kind.requirement ≠ .required
  | some a => kind.requirement ≠ .forbidden ∧ a.shape = kind.shape ∧ a.IsWellFormed

/-- Whether the spell has an argument as its kind says, and a scope that can be written. -/
structure Spell.IsWellFormed (s : Spell) : Prop where
  argument : s.kind.Takes s.argument
  scope : ∀ scope ∈ s.scope, scope.IsWellFormed

mutual

/-- Whether the spells of a clause are well-formed, and so are its groups. -/
def Clause.IsWellFormed : Clause → Prop
  | .spell s => s.IsWellFormed
  | .group g => g.IsWellFormed

/-- Whether the members of a group are. -/
def Group.IsWellFormed : Group → Prop
  | ⟨_, members⟩ => Group.MembersWellFormed members

/-- Whether there are members, they are well-formed, and the last one's joiner is `or`. -/
def Group.MembersWellFormed : List Member → Prop
  | [] => False
  | [⟨c, j⟩] => c.IsWellFormed ∧ j = .or
  | ⟨c, _⟩ :: m :: rest => c.IsWellFormed ∧ Group.MembersWellFormed (m :: rest)

end

mutual

/-- How deep the parentheses of a clause are nested. -/
def Clause.depth : Clause → Nat
  | .spell _ => 0
  | .group g => g.depth

/-- How deep the parentheses of a group are nested, its own ones counted. -/
def Group.depth : Group → Nat
  | ⟨_, members⟩ => Group.membersDepth members + 1

/-- How deep the parentheses of members are nested. -/
def Group.membersDepth : List Member → Nat
  | [] => 0
  | ⟨c, _⟩ :: rest => max c.depth (Group.membersDepth rest)

end

/-- Whether the pattern is a literal, the scope can be written, and the template is in the stored
notation. -/
structure Replacement.IsWellFormed (rule : Replacement) : Prop where
  scope : ∀ scope ∈ rule.scope, scope.IsWellFormed
  pattern : rule.pattern.IsLiteral
  template : Replacement.normalize rule.pattern rule.template = rule.template

namespace Document

/-- Whether the written form of the document says everything about it. -/
structure IsWellFormed (d : Document) : Prop where
  filter : ∀ g ∈ d.filter, g.negated = false ∧ g.IsWellFormed
  incoming : ∀ rule ∈ d.incoming, rule.IsWellFormed
  outgoing : ∀ rule ∈ d.outgoing, rule.IsWellFormed

/-- How deep the parentheses of the document are nested; the outermost group has none. -/
def depth (d : Document) : Nat := (d.filter.map fun g => Group.membersDepth g.members).getD 0

end Document

/-- The group as the filter of a document that was read: what is not a single statement is the only
statement of a new group. -/
def Group.reread (g : Group) : Group :=
  if g.members.length = 1 then g else Group.single (.group g)

/-- The document as it is once it was written and read back. -/
def Document.reread (d : Document) : Document := { d with filter := d.filter.map Group.reread }

end PostFilter
