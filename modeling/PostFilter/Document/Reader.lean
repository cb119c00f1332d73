import PostFilter.CharSet.Property
import PostFilter.Document.ArgumentReader
import PostFilter.Document.Basic
import PostFilter.Text.Reading

/-!
# Documents — reading

```
document    := statement (newline+ statement)*
statement   := replacement | chain
chain       := operand (("&" | "|") operand)*
operand     := "!"? (spell | "(" chain ")")
spell       := "#" word scope? argument?
scope       := "[" board ("," (number | "-"))? "]"
replacement := ("#rep" | "#outrep") scope? "(" pattern ("," text)? ")"
```

Spaces, tabs and carriage returns may stand between these parts; line feeds too inside parentheses
and on either side of a joiner. Nothing may stand between a word, its scope and its argument.

Every reader takes the rest of the text and hands back a value with what is left of it. A `Failure`
keeps the rest of the text at the place of the fault, so no reader counts characters:
`Document.parse` turns that rest into a position.

* `Document.parse` — the document of a text, or the first fault in it.
* `Document.Limits` — bounds on the size of the text and on the nesting of parentheses.
-/

namespace PostFilter.Document

open Text

/-- Bounds on what is read. -/
structure Limits where
  /-- The largest text, in bytes. -/
  size : Nat := 1048576
  /-- The deepest nesting of parentheses. -/
  depth : Nat := 64
  deriving DecidableEq, Repr

/-- A cause, and the rest of the text where it arose. -/
structure Failure where
  cause : Cause
  rest : List Char

/-! ### Blanks -/

/-- Blanks inside a line. -/
def isInlineBlank (c : Char) : Bool := c == ' ' || c == '\t' || c == '\r'

/-- Blanks, line feeds among them. -/
def isAnyBlank (c : Char) : Bool := isInlineBlank c || c == '\n'

/-- The text behind the blanks of a line. -/
def skipInline (s : List Char) : List Char := s.dropWhile isInlineBlank

/-- The text behind blanks and line feeds. -/
def skipAny (s : List Char) : List Char := s.dropWhile isAnyBlank

/-- The reading that takes the blanks of a line. -/
def skippedInline (s : List Char) : Reading Unit s :=
  ⟨(), skipInline s, (List.dropWhile_sublist _).length_le⟩

/-- The reading that takes blanks and line feeds. -/
def skippedAny (s : List Char) : Reading Unit s :=
  ⟨(), skipAny s, (List.dropWhile_sublist _).length_le⟩

/-- The reading that takes what is blank inside parentheses or, with `inside` false, outside
them. -/
def skippedBlanks (inside : Bool) (s : List Char) : Reading Unit s :=
  if inside then skippedAny s else skippedInline s

/-! ### Words -/

/-- The word at the front: as many ASCII letters and digits as there are. -/
def readWord (s : List Char) : Reading (List Char) s := .run Char.isAlphanum s

/-- The direction of the replacement rule that starts here, if one does. -/
def direction? (s : List Char) : Option Direction :=
  match s with
  | '#' :: rest =>
    let word := String.ofList (readWord rest).value
    if word == "rep" then some .incoming else if word == "outrep" then some .outgoing else none
  | _ => none

/-- The text up to the first `c`, and what is behind that. -/
def readUpTo? (c : Char) (s : List Char) : Option (Reading (List Char) s) :=
  match h : splitFirst? (· == c) s with
  | none => none
  | some (text, rest) => some ⟨text, rest, Nat.le_of_lt (length_of_splitFirst? h)⟩

/-! ### Scopes, patterns and free text -/

/-- Characters of board names. -/
def isBoardChar (c : Char) : Bool := Letter.isAlphanumeric c || c == '_' || c == '-' || c == '.'

/-- A scope from behind its `[` on; `whole` starts with that bracket. -/
def readScope (whole s : List Char) : Except Failure (Reading Scope s) :=
  match readUpTo? ']' s with
  | none => .error ⟨.scopeUnclosed, whole⟩
  | some body =>
    let parts := splitFirst? (· == ',') body.value
    let board := trimList ((parts.map (·.1)).getD body.value)
    let thread := parts.map fun p => trimList p.2
    if board.isEmpty || !board.all isBoardChar then
      .error ⟨.boardInvalid (String.ofList board), whole⟩
    else
      let done (t : ThreadScope) : Except Failure (Reading Scope s) :=
        .ok (body.map fun _ => ⟨String.ofList board, t⟩)
      match thread with
      | none => done .anywhere
      | some ['-'] => done .boardOnly
      | some t =>
        match readNumber t with
        | .ok n => done (.thread n)
        | .error _ => .error ⟨.threadInvalid (String.ofList t), whole⟩

/-- The scope at the front, if there is one. -/
def readScope? (s : List Char) : Except Failure (Reading (Option Scope) s) :=
  match s with
  | '[' :: rest =>
    (readScope ('[' :: rest) rest).map fun r => (r.map some).past '['
  | other => .ok (.stay none other)

/-- The source of a pattern up to the slash that ends it, and the text behind that slash. A
backslash covers the character behind it, and a slash between brackets is part of the source. -/
def scanPattern (inClass : Bool) (s : List Char) : Option (List Char × List Char) :=
  match s with
  | [] => none
  | c :: rest =>
    if c == '\\' then
      match rest with
      | [] => none
      | d :: more => (scanPattern inClass more).map fun (a, b) => (c :: d :: a, b)
    else if c == '/' && !inClass then some ([], rest)
    else
      let inClass := if c == '[' then true else if c == ']' then false else inClass
      (scanPattern inClass rest).map fun (a, b) => (c :: a, b)

theorem length_of_scanPattern {inClass : Bool} {s a b : List Char}
    (h : scanPattern inClass s = some (a, b)) : b.length < s.length := by
  fun_induction scanPattern inClass s generalizing a b with
  | case1 => simp at h
  | case2 => simp at h
  | case3 inClass c d more hc ih =>
    simp only [Option.map_eq_some_iff, Prod.mk.injEq, Prod.exists] at h
    obtain ⟨a', b', h', -, rfl⟩ := h
    have := ih h'
    simp only [List.length_cons]; omega
  | case4 inClass c rest _ _ =>
    simp only [Option.some.injEq, Prod.mk.injEq] at h
    simp [← h.2]
  | case5 inClass c rest =>
    rename_i ih
    simp only [Option.map_eq_some_iff, Prod.mk.injEq, Prod.exists] at h
    obtain ⟨a', b', h', -, rfl⟩ := h
    have := ih h'
    simp only [List.length_cons]; omega

/-- The source of a pattern from behind its first slash on. -/
def readSource? (s : List Char) : Option (Reading (List Char) s) :=
  match h : scanPattern false s with
  | none => none
  | some (source, rest) => some ⟨source, rest, Nat.le_of_lt (length_of_scanPattern h)⟩

/-- A pattern literal. -/
def readPattern (s : List Char) : Except Failure (Reading Pattern s) :=
  match s with
  | '/' :: body =>
    match readSource? body with
    | none => .error ⟨.patternUnclosed, '/' :: body⟩
    | some source =>
      if source.value.isEmpty then .error ⟨.patternEmpty, '/' :: body⟩
      else
        let letters := source.andThen (.run Char.isAlpha source.rest)
        let text := String.ofList source.value
        let flags := String.ofList letters.value
        match Pattern.read text flags with
        | .error fault => .error ⟨.patternInvalid text flags fault, '/' :: body⟩
        | .ok p => .ok ((letters.map fun _ => p).past '/')
  | other => .error ⟨.patternExpected, other⟩

/-- Free text up to the parenthesis that ends it, with its escapes undone, and the text behind that
parenthesis. -/
def scanText (s : List Char) : Option (List Char × List Char) :=
  match s with
  | [] => none
  | c :: rest =>
    if c == ')' then some ([], rest)
    else if c == '\\' then
      match rest with
      | [] => none
      | d :: more =>
        if d == '(' || d == ')' || d == '\\' then
          (scanText more).map fun (a, b) => (d :: a, b)
        else (scanText (d :: more)).map fun (a, b) => (c :: a, b)
    else (scanText rest).map fun (a, b) => (c :: a, b)

theorem length_of_scanText {s a b : List Char} (h : scanText s = some (a, b)) :
    b.length < s.length := by
  fun_induction scanText s generalizing a b with
  | case1 => simp at h
  | case2 c rest _ =>
    simp only [Option.some.injEq, Prod.mk.injEq] at h
    simp [← h.2]
  | case3 => simp at h
  | case4 | case5 | case6 =>
    rename_i ih
    simp only [Option.map_eq_some_iff, Prod.mk.injEq, Prod.exists] at h
    obtain ⟨a', b', h', -, rfl⟩ := h
    have := ih h'
    simp only [List.length_cons] at this ⊢; omega

/-- Free text of an argument; `whole` starts with the parenthesis that opens it. -/
def readText (whole s : List Char) : Except Failure (Reading (List Char) s) :=
  match h : scanText s with
  | none => .error ⟨.argumentUnclosed, whole⟩
  | some (text, rest) => .ok ⟨text, rest, Nat.le_of_lt (length_of_scanText h)⟩

/-- The parenthesis that ends an argument. -/
def readClose (whole s : List Char) : Except Failure (Reading Unit s) :=
  match s with
  | [] => .error ⟨.argumentUnclosed, whole⟩
  | c :: rest =>
    if c == ')' then .ok (.skipOne () c rest) else .error ⟨.closeExpected c, c :: rest⟩

/-! ### Spells -/

/-- The argument that the text between parentheses stands for, by shape. Free text and patterns are
not read from such a text. -/
def parseArgument (shape : ArgumentShape) (s : List Char) : Except ArgumentFault Argument :=
  match shape with
  | .ranges => (readRanges s).map .ranges
  | .image => (readImageBound s).map .image
  | .checks => (readChecks s).map .checks
  | .signature => (readSignature s).map .signature
  | .none | .text | .pattern => .error (.numberExpected (String.ofList s))

/-- The argument of a spell from behind its parenthesis on; `whole` starts with it. -/
def readArgument (kind : Kind) (whole s : List Char) : Except Failure (Reading Argument s) :=
  match kind.shape with
  | .pattern =>
    let start := skippedInline s
    match readPattern start.rest with
    | .error failure => .error failure
    | .ok p =>
      let behind := (start.andThen p).andThen (skippedInline p.rest)
      match readClose whole behind.rest with
      | .error failure => .error failure
      | .ok close => .ok (behind.andThen (close.map fun _ => .pattern p.value))
  | .text =>
    match readText whole s with
    | .error failure => .error failure
    | .ok t =>
      let body := trimList t.value
      if body.isEmpty then .error ⟨.argumentEmpty kind, whole⟩
      else .ok (t.map fun _ => .text (String.ofList body))
  | shape =>
    match readUpTo? ')' s with
    | none => .error ⟨.argumentUnclosed, whole⟩
    | some text =>
      let body := trimList text.value
      if body.isEmpty then .error ⟨.argumentEmpty kind, whole⟩
      else
        match parseArgument shape body with
        | .error fault => .error ⟨.argumentInvalid kind fault, s⟩
        | .ok argument => .ok (text.map fun _ => argument)

/-- The argument of a spell, if one follows and as its kind requires; `whole` starts with the
spell. -/
def readArgument? (kind : Kind) (whole s : List Char) :
    Except Failure (Reading (Option Argument) s) :=
  match s with
  | '(' :: rest =>
    if kind.requirement = .forbidden then .error ⟨.argumentUnexpected kind, '(' :: rest⟩
    else
      (readArgument kind ('(' :: rest) rest).map fun r => (r.map some).past '('
  | other =>
    if kind.requirement = .required then .error ⟨.argumentMissing kind, whole⟩
    else .ok (.stay none other)

/-- A spell from behind its `#` on; `whole` starts with that sign. -/
def readSpell (whole s : List Char) : Except Failure (Reading Spell s) :=
  let word := readWord s
  if word.value.isEmpty then .error ⟨.wordMissing, whole⟩
  else
    match Kind.ofWord? (String.ofList word.value) with
    | none => .error ⟨.spellUnknown (String.ofList word.value), whole⟩
    | some kind =>
      match readScope? word.rest with
      | .error failure => .error failure
      | .ok scope =>
        match readArgument? kind whole scope.rest with
        | .error failure => .error failure
        | .ok argument =>
          let spell : Spell := ⟨kind, argument.value, scope.value, false⟩
          .ok (word.andThen (scope.andThen (argument.map fun _ => spell)))

/-! ### Chains -/

/-- The joiner with a given sign. -/
def joiner? (c : Char) : Option Joiner :=
  if c == '&' then some .and else if c == '|' then some .or else none

/-- The joiner behind an operand, or nothing where the chain ends: at the end of the text, before a
closing parenthesis and, outside parentheses, at the end of a line that no joiner follows. -/
def readJoiner? (inside : Bool) (s : List Char) : Except Failure (Reading (Option Joiner) s) :=
  let start := skippedBlanks inside s
  let ended : Reading (Option Joiner) s := start.map fun _ => none
  match start.next? with
  | none => .ok ended
  | some c =>
    match joiner? c.value with
    | some j => .ok (c.andThen ((skippedAny c.rest).map fun _ => some j))
    | none =>
      if c.value == ')' then .ok ended
      else if c.value == '\n' then
        match (c.andThen (skippedAny c.rest)).next? with
        | none => .ok ended
        | some d =>
          match joiner? d.value with
          | some j => .ok (d.andThen ((skippedAny d.rest).map fun _ => some j))
          | none => .ok ended
      else if (direction? start.rest).isSome then .error ⟨.replacementForJoiner, start.rest⟩
      else if c.value == '#' || c.value == '(' || c.value == '!' then
        .error ⟨.joinerMissing, start.rest⟩
      else .error ⟨.joinerExpected c.value, start.rest⟩

/-- Operands with joiners between them. -/
def readChain (inside : Bool)
    (operand : (s : List Char) → Except Failure (Taking Clause s)) (s : List Char) :
    Except Failure (Taking (List Member) s) :=
  match operand s with
  | .error failure => .error failure
  | .ok c =>
    have := c.lt
    match readJoiner? inside c.rest with
    | .error failure => .error failure
    | .ok j =>
      have := j.le
      match j.value with
      | none => .ok (c.andThen (j.map fun _ => [⟨c.value, .or⟩]))
      | some joiner =>
        match readChain inside operand j.rest with
        | .error failure => .error failure
        | .ok more =>
          .ok (c.andThen (j.andThen (more.toReading.map (⟨c.value, joiner⟩ :: ·))))
termination_by s.length
decreasing_by omega

/-- A group from behind its parenthesis on; `whole` starts with it, and `operand` reads what is
inside. -/
def readGroup (operand : (s : List Char) → Except Failure (Taking Clause s))
    (whole s : List Char) : Except Failure (Reading Group s) :=
  let start := skippedAny s
  if start.rest.head? == some ')' then .error ⟨.groupEmpty, whole⟩
  else
    match readChain true operand start.rest with
    | .error failure => .error failure
    | .ok members =>
      match members.toReading.sign? ')' with
      | none => .error ⟨.groupUnclosed, whole⟩
      | some close => .ok (start.andThen (close.map fun _ => ⟨false, members.value⟩))

/-- What may stand behind the negation of an operand. -/
def readPlainOperand (inside : Bool)
    (group : (whole s : List Char) → Except Failure (Reading Group s)) (s : List Char) :
    Except Failure (Taking Clause s) :=
  match s with
  | [] => .error ⟨.operandMissing, []⟩
  | c :: rest =>
    if c == '(' then
      (group (c :: rest) rest).map fun g => (g.map .group).takenPast c
    else if c == '#' then
      if (direction? (c :: rest)).isSome then
        .error ⟨if inside then .replacementInGroup else .replacementInExpression, c :: rest⟩
      else
        (readSpell (c :: rest) rest).map fun s => (s.map .spell).takenPast c
    else if c == ')' && !inside then .error ⟨.strayClose, c :: rest⟩
    else .error ⟨.operandExpected c, c :: rest⟩

/-- An operand: a spell or a group, negated by `!`. -/
def readOperand (inside : Bool)
    (group : (whole s : List Char) → Except Failure (Reading Group s)) (s : List Char) :
    Except Failure (Taking Clause s) :=
  let start := skippedBlanks inside s
  let mark := start.sign? '!'
  let body := (mark.map fun m => m.andThen (skippedBlanks inside m.rest)).getD start
  (readPlainOperand inside group body.rest).map fun c =>
    body.andTake (c.map fun c => c.negateIf mark.isSome)

/-- A group inside which parentheses may be nested `levels` deep less one; `limit` is the bound
that is reported when they are nested deeper. -/
def readGroupWithin (limit : Nat) :
    (levels : Nat) → (whole s : List Char) → Except Failure (Reading Group s)
  | 0, whole, _ => .error ⟨.nestedTooDeep limit, whole⟩
  | levels + 1, whole, s =>
    readGroup (readOperand true (readGroupWithin limit levels)) whole s

/-- A chain outside parentheses. -/
def readStatementChain (limit : Nat) (s : List Char) :
    Except Failure (Taking (List Member) s) :=
  readChain false (readOperand false (readGroupWithin limit limit)) s

/-! ### Statements -/

/-- A replacement rule from behind its word on; `whole` starts with its `#`. -/
def readReplacement (direction : Direction) (whole s : List Char) :
    Except Failure (Reading Replacement s) :=
  match readScope? s with
  | .error failure => .error failure
  | .ok scope =>
    match scope.sign? '(' with
    | none => .error ⟨.replacementNeedsPattern direction, whole⟩
    | some opening =>
      let start := opening.andThen (skippedInline opening.rest)
      match readPattern start.rest with
      | .error failure => .error failure
      | .ok p =>
        let behind := (start.andThen p).andThen (skippedInline p.rest)
        let rule (text : List Char) := Replacement.make scope.value p.value (String.ofList text)
        match behind.sign? ',' with
        | some comma =>
          (readText scope.rest comma.rest).map fun text => comma.andThen (text.map rule)
        | none =>
          (readClose scope.rest behind.rest).map fun close =>
            behind.andThen (close.map fun _ => rule [])

/-- What must follow a replacement rule: the end of its line, and no joiner behind that. -/
def readReplacementEnd (s : List Char) : Except Failure (Reading Unit s) :=
  let line := skippedInline s
  let isJoiner (c : Char) : Bool := (joiner? c).isSome
  match line.rest.head? with
  | none => .ok line
  | some c =>
    if c == '\n' then
      let next := skipAny line.rest
      if next.head?.any isJoiner then .error ⟨.joinerAfterReplacement, next⟩ else .ok line
    else if isJoiner c then .error ⟨.joinerAfterReplacement, line.rest⟩
    else .error ⟨.lineEndExpected c, line.rest⟩

/-- The clause of a statement: a single operand stands for itself. -/
def statementClause : List Member → Clause
  | [m] => m.clause
  | ms => .group ⟨false, ms⟩

/-- One statement. -/
def readStatement (limit : Nat) (s : List Char) : Except Failure (Taking Statement s) :=
  match s with
  | [] => .error ⟨.operandMissing, []⟩
  | c :: rest =>
    match direction? (c :: rest) with
    | some direction =>
      let word := readWord rest
      match readReplacement direction (c :: rest) word.rest with
      | .error failure => .error failure
      | .ok rule =>
        (readReplacementEnd rule.rest).map fun line =>
          (word.andThen (rule.andThen (line.map fun _ => .replacement direction rule.value)))
            |>.takenPast c
    | none =>
      match readStatementChain limit (c :: rest) with
      | .error failure => .error failure
      | .ok chain =>
        if chain.rest.head? == some ')' then .error ⟨.strayClose, chain.rest⟩
        else .ok (chain.map fun members => .clause (statementClause members))

/-- All statements of a text. -/
def readStatements (limit : Nat) (s : List Char) : Except Failure (List Statement) :=
  let start := skippedAny s
  if start.rest.isEmpty then .ok []
  else
    match readStatement limit start.rest with
    | .error failure => .error failure
    | .ok statement =>
      have := start.le
      have := statement.lt
      match readStatements limit statement.rest with
      | .error failure => .error failure
      | .ok more => .ok (statement.value :: more)
termination_by s.length
decreasing_by omega

/-- The document of a text, or what is wrong with it. -/
def readDocument (limits : Limits) (s : List Char) : Except Failure Document :=
  if limits.size < byteLength s then
    .error ⟨.sourceTooLarge (byteLength s) limits.size, s⟩
  else (readStatements limits.depth s).map ofStatements

/-- The position of a rest in the text that it is the rest of. -/
def positionOf (s rest : List Char) : Position :=
  .behind (s.take (s.length - rest.length))

/-- Reads a rule list. -/
def parse (source : String) (limits : Limits := {}) : Except SourceFault Document :=
  (readDocument limits source.toList).mapError fun failure =>
    ⟨failure.cause, positionOf source.toList failure.rest⟩

end PostFilter.Document
