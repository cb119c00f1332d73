import PostFilter.Book.Basic

/-!
# Rule books — quick hiding

Rules that are added from the menu of a post: "hide this name", "hide posts with this pattern". They
become ordinary statements at the end of the book, so they are read, scoped and stored like rules
written by hand. A rule that is already a statement of its own is not added again.
-/

namespace PostFilter

/-- What came of adding a rule. -/
inductive HideOutcome where
  | added
  /-- The book has the same rule as a statement. -/
  | present
  /-- There is nothing to hide by. -/
  | rejected
  deriving DecidableEq, Repr

/-- A rule that searches for a pattern, under conditions. -/
structure PatternRule where
  scope : Option Scope := none
  /-- Whether only posts that open a thread are hidden. -/
  openingOnly : Bool := false
  /-- Whether only posts with the sage mark are hidden. -/
  sageOnly : Bool := false
  /-- Whether the subject is searched. -/
  inSubject : Bool := false
  /-- Whether the text is searched. -/
  inText : Bool := true
  pattern : Pattern

namespace PatternRule

/-- Puts a backslash before every `/` that would end a pattern literal: one that no backslash stands
before and that is in no class. -/
def escapeSlashesFrom (escaped inClass : Bool) : List Char → List Char
  | [] => []
  | c :: rest =>
    let written := if c == '/' && !escaped && !inClass then ['\\', '/'] else [c]
    let inClass' :=
      if escaped then inClass else if c == '[' then true else if c == ']' then false else inClass
    written ++ escapeSlashesFrom (c == '\\' && !escaped) inClass' rest

/-- Puts a backslash before every `/` that would end a pattern literal. -/
def escapeSlashes (s : String) : String := String.ofList (escapeSlashesFrom false false s.toList)

/-- The letters of the patterns: case is ignored and a point matches line ends. -/
def letters : String := "is"

/-- A rule that searches the text for a pattern. -/
def ofSource (source : String) : Except Pattern.Fault PatternRule := do
  let p ← Pattern.read (escapeSlashes source) letters
  pure { pattern := p }

/-- A spell of the rule: it has the scope of the rule. -/
def spell (r : PatternRule) (kind : Kind) (argument : Option Argument) : Clause :=
  .spell { kind := kind, argument := argument, scope := r.scope }

/-- The searches of the rule. -/
def searches (r : PatternRule) : List Clause :=
  (if r.inSubject then [r.spell .subj (some (.pattern r.pattern))] else []) ++
    (if r.inText then [r.spell .exp (some (.pattern r.pattern))] else [])

/-- The conditions of the rule. -/
def conditions (r : PatternRule) : List Clause :=
  (if r.openingOnly then [r.spell .op none] else []) ++
    (if r.sageOnly then [r.spell .sage none] else [])

/-- Joins clauses; a single one stands for itself. -/
def chained (joiner : Joiner) : List Clause → Clause
  | [c] => c
  | cs => .group (Group.chain joiner cs)

/-- The rule as a clause; nothing if it searches nowhere. -/
def toClause? (r : PatternRule) : Option Clause :=
  match r.searches with
  | [] => none
  | searches => some (chained .and (r.conditions ++ [chained .or searches]))

end PatternRule

namespace RuleBook

/-- The clauses that are statements of the book. -/
def statements (b : RuleBook) : List Clause := (b.document.filter.map Group.clauses).getD []

/-- A clause as a statement: a group stands without parentheses where it can. -/
def statementText : Clause → String
  | .spell s => s.text
  | .group g => g.defaultText

/-- The text of the book with a statement at its end. -/
def extended (b : RuleBook) (statement : String) : String :=
  match Text.trimEnd b.source.toList with
  | [] => statement
  | current => String.ofList current ++ "\n" ++ statement

/-- Adds a clause as a statement, unless one is written in the same way. -/
def append (b : RuleBook) (c : Clause) (timestamp : UInt64) :
    Except SourceFault (HideOutcome × RuleBook) :=
  if b.statements.any fun s => s.text == c.text then .ok (.present, b)
  else do
    let (_, next) ← b.replace (b.extended (statementText c)) timestamp
    pure (.added, next)

/-- Hides posts whose author name contains a text, blanks around it left aside. -/
def hideName (b : RuleBook) (name : String) (scope : Option Scope) (timestamp : UInt64) :
    Except SourceFault (HideOutcome × RuleBook) :=
  let name := Text.trim name
  if name.isEmpty || name.toList.contains '\n' then .ok (.rejected, b)
  else
    b.append (.spell { kind := .name, argument := some (.text name), scope := scope }) timestamp

/-- Hides posts by a pattern. -/
def hidePattern (b : RuleBook) (rule : PatternRule) (timestamp : UInt64) :
    Except SourceFault (HideOutcome × RuleBook) :=
  match rule.toClause? with
  | none => .ok (.rejected, b)
  | some c => b.append c timestamp

end RuleBook

end PostFilter
