import PostFilter.Document.Reader
import PostFilter.Text.Bytes

/-!
# Documents — reading by offsets

The reader of `Document.parse`, over the bytes of the text and with a cursor that is an offset into
them. It looks at one byte at a time, and takes parts of the text by the offsets they lie between.

What could go wrong with offsets is checked where it is done: each move of the cursor, each part cut
out, each byte or character taken by its offset, each offset that a fault is reported at, and each
round of a loop that has to get ahead. A check that fails is a `Slip`, which is not a fault of the
text: the reader has lost its place.

* `Cursor.parse` — the document of a text or the first fault in it, or a slip.
-/

namespace PostFilter.Document.Cursor

open Text

/-- What a check refuses. -/
inductive Slip where
  /-- A cursor inside a character or past the end. -/
  | cursor (offset : Nat)
  /-- A part with its ends out of order, inside a character or past the end. -/
  | part (start stop : Nat)
  /-- A byte or a character that is not there. -/
  | missing (offset : Nat)
  /-- A fault reported inside a character or past the end. -/
  | report (offset : Nat)
  /-- A round from this offset on that does not get ahead. -/
  | round (offset : Nat)
  deriving DecidableEq, Repr

/-- Why a reader stops: a fault in the text, or a slip. -/
inductive Stop where
  | fault (cause : Cause) (offset : Nat)
  | slip (slip : Slip)

/-- A value, and the cursor behind it. -/
abbrev Taken (α : Type) := α × Nat

section
variable (text : List Char)

/-! ### Checked operations -/

/-- Moves the cursor to an offset. -/
def moveTo (offset : Nat) : Except Stop Nat :=
  if isBoundary text offset then .ok offset else .error (.slip (.cursor offset))

/-- The part of the text between two offsets. -/
def cut (start stop : Nat) : Except Stop (List Char) :=
  if start ≤ stop then
    match (splitBytes? start text).bind fun (_, rest) => splitBytes? (stop - start) rest with
    | some (part, _) => .ok part
    | none => .error (.slip (.part start stop))
  else .error (.slip (.part start stop))

/-- The part of the text from an offset on. -/
def cutFrom (start : Nat) : Except Stop (List Char) :=
  match splitBytes? start text with
  | some (_, rest) => .ok rest
  | none => .error (.slip (.part start (byteLength text)))

/-- The character at an offset. -/
def charAt (offset : Nat) : Except Stop Char := do
  match ← cutFrom text offset with
  | c :: _ => return c
  | [] => .error (.slip (.missing offset))

/-- Reports a fault at an offset. -/
def fail {α : Type} (cause : Cause) (offset : Nat) : Except Stop α :=
  .error (if isBoundary text offset then .fault cause offset else .slip (.report offset))

/-- The offset of the first byte that is `c` in the bytes from an offset on. -/
def find (c : Char) (start : Nat) : Except Stop (Option Nat) :=
  if start ≤ byteLength text then .ok (findByte? c text start)
  else .error (.slip (.part start (byteLength text)))

/-! ### Blanks -/

/-- The cursor behind the blanks of a line. -/
def skipInline (pos : Nat) : Except Stop Nat :=
  match h : byteAt? text pos with
  | none => .ok pos
  | some b =>
    have := lt_of_byteAt? h
    if isInlineBlank b then
      match moveTo text (pos + 1) with
      | .error stop => .error stop
      | .ok _ => skipInline (pos + 1)
    else .ok pos
termination_by (utf8 text).length - pos
decreasing_by omega

/-- The cursor behind blanks and line feeds. -/
def skipAny (pos : Nat) : Except Stop Nat := moveTo text (runEnd isAnyBlank text pos)

theorem le_of_skipAny {pos next : Nat} (h : skipAny text pos = .ok next) : pos ≤ next := by
  rw [skipAny, moveTo] at h
  split at h
  · cases h
    exact Nat.le_add_right ..
  · cases h

/-- The cursor behind what is blank inside parentheses or, with `inside` false, outside them. -/
def skipBlanks (inside : Bool) (pos : Nat) : Except Stop Nat :=
  if inside then skipAny text pos else skipInline text pos

/-! ### Scopes, patterns and free text -/

/-- The direction of the replacement rule at the cursor, if there is one. -/
def direction? (pos : Nat) : Except Stop (Option Direction) := do
  if byteAt? text pos == some '#' then
    let word := String.ofList (← cut text (pos + 1) (runEnd Char.isAlphanum text (pos + 1)))
    return if word == "rep" then some .incoming else if word == "outrep" then some .outgoing
      else none
  else return none

/-- The scope that the text between brackets stands for. -/
def scopeOf (body : List Char) : Except Cause Scope :=
  let parts := splitFirst? (· == ',') body
  let board := trimList ((parts.map (·.1)).getD body)
  let thread := parts.map fun p => trimList p.2
  if board.isEmpty || !board.all isBoardChar then .error (.boardInvalid (String.ofList board))
  else
    match thread with
    | none => .ok ⟨String.ofList board, .anywhere⟩
    | some ['-'] => .ok ⟨String.ofList board, .boardOnly⟩
    | some t =>
      match readNumber t with
      | .ok n => .ok ⟨String.ofList board, .thread n⟩
      | .error _ => .error (.threadInvalid (String.ofList t))

/-- A scope; the cursor is on its bracket. -/
def takeScope (pos : Nat) : Except Stop (Taken Scope) := do
  match ← find text ']' pos with
  | none => fail text .scopeUnclosed pos
  | some close =>
    match scopeOf (← cut text (pos + 1) close) with
    | .error cause => fail text cause pos
    | .ok scope => return (scope, ← moveTo text (close + 1))

/-- The scope at the cursor, if there is one. -/
def takeScope? (pos : Nat) : Except Stop (Taken (Option Scope)) := do
  if byteAt? text pos == some '[' then
    let (scope, next) ← takeScope text pos
    return (some scope, next)
  else return (none, pos)

/-- The offset of the slash that ends the source of a pattern. A backslash covers one byte behind
it, which may be the first of several that make a character, or be missing. -/
def patternEnd? (inClass : Bool) (pos : Nat) : Option Nat :=
  match h : byteAt? text pos with
  | none => none
  | some b =>
    have := lt_of_byteAt? h
    if b == '\\' then patternEnd? inClass (pos + 2)
    else if b == '/' && !inClass then some pos
    else patternEnd? (if b == '[' then true else if b == ']' then false else inClass) (pos + 1)
termination_by (utf8 text).length - pos
decreasing_by all_goals omega

/-- A pattern literal. -/
def takePattern (pos : Nat) : Except Stop (Taken Pattern) := do
  if byteAt? text pos == some '/' then
    match patternEnd? text false (pos + 1) with
    | none => fail text .patternUnclosed pos
    | some stop =>
      let behind := runEnd Char.isAlpha text (stop + 1)
      let source ← cut text (pos + 1) stop
      let letters ← cut text (stop + 1) behind
      if source.isEmpty then fail text .patternEmpty pos
      else
        match Pattern.read (String.ofList source) (String.ofList letters) with
        | .error fault =>
          fail text (.patternInvalid (String.ofList source) (String.ofList letters) fault) pos
        | .ok p => return (p, ← moveTo text behind)
  else fail text .patternExpected pos

/-- Free text up to the parenthesis that ends it, with its escapes undone, and the number of bytes
taken; `taken` bytes were taken before. -/
def freeText? (taken : Nat) (s : List Char) : Option (List Char × Nat) :=
  match s with
  | [] => none
  | c :: rest =>
    if c == ')' then some ([], taken + 1)
    else if c == '\\' then
      match rest with
      | [] => none
      | d :: more =>
        if d == '(' || d == ')' || d == '\\' then
          (freeText? (taken + 2) more).map fun (a, n) => (d :: a, n)
        else (freeText? (taken + 1) (d :: more)).map fun (a, n) => (c :: a, n)
    else (freeText? (taken + c.utf8Size) rest).map fun (a, n) => (c :: a, n)

/-- Free text of an argument that opens at `opening`. -/
def takeText (opening pos : Nat) : Except Stop (Taken (List Char)) := do
  match freeText? 0 (← cutFrom text pos) with
  | none => fail text .argumentUnclosed opening
  | some (t, taken) => return (t, ← moveTo text (pos + taken))

/-- The cursor behind the parenthesis that ends an argument; it opens at `opening`. -/
def takeClose (opening pos : Nat) : Except Stop Nat := do
  match byteAt? text pos with
  | none => fail text .argumentUnclosed opening
  | some b =>
    if b == ')' then moveTo text (pos + 1)
    else fail text (.closeExpected (← charAt text pos)) pos

/-! ### Spells -/

/-- The argument of a spell; `opening` is the offset of its parenthesis. -/
def takeArgument (kind : Kind) (opening : Nat) : Except Stop (Taken Argument) := do
  let pos ← moveTo text (opening + 1)
  match kind.shape with
  | .pattern =>
    let (p, next) ← takePattern text (← skipInline text pos)
    return (.pattern p, ← takeClose text opening (← skipInline text next))
  | .text =>
    let (t, next) ← takeText text opening pos
    let body := trimList t
    if body.isEmpty then fail text (.argumentEmpty kind) opening
    else return (.text (String.ofList body), next)
  | shape =>
    match ← find text ')' pos with
    | none => fail text .argumentUnclosed opening
    | some close =>
      let body := trimList (← cut text pos close)
      if body.isEmpty then fail text (.argumentEmpty kind) opening
      else
        match parseArgument shape body with
        | .error fault => fail text (.argumentInvalid kind fault) pos
        | .ok argument => return (argument, ← moveTo text (close + 1))

/-- The argument of a spell that starts at `start`, if one is at the cursor and as its kind
requires. -/
def takeArgument? (kind : Kind) (start pos : Nat) : Except Stop (Taken (Option Argument)) := do
  if byteAt? text pos == some '(' then
    if kind.requirement = .forbidden then fail text (.argumentUnexpected kind) pos
    else
      let (argument, next) ← takeArgument text kind pos
      return (some argument, next)
  else if kind.requirement = .required then fail text (.argumentMissing kind) start
  else return (none, pos)

/-- A spell; the cursor is on its sign. -/
def takeSpell (start : Nat) : Except Stop (Taken Spell) := do
  let stop := runEnd Char.isAlphanum text (start + 1)
  let word ← cut text (start + 1) stop
  if word.isEmpty then fail text .wordMissing start
  else
    match Kind.ofWord? (String.ofList word) with
    | none => fail text (.spellUnknown (String.ofList word)) start
    | some kind =>
      let (scope, pos) ← takeScope? text (← moveTo text stop)
      let (argument, pos) ← takeArgument? text kind start pos
      return (⟨kind, argument, scope, false⟩, pos)

/-! ### Chains -/

/-- The joiner whose sign is at an offset. -/
def takeSign (offset : Nat) : Except Stop (Taken Joiner) := do
  match byteAt? text offset with
  | none => .error (.slip (.missing offset))
  | some b =>
    let next ← skipAny text (← moveTo text (offset + 1))
    return (if b == '&' then .and else .or, next)

/-- Whether the sign of a joiner is at an offset. -/
def isSign (offset : Nat) : Bool := (byteAt? text offset).any fun b => b == '&' || b == '|'

/-- The joiner behind an operand, or nothing where the chain ends. -/
def takeJoiner? (inside : Bool) (behind : Nat) : Except Stop (Taken (Option Joiner)) := do
  let pos ← skipBlanks text inside behind
  match byteAt? text pos with
  | none => return (none, pos)
  | some b =>
    if isSign text pos then
      let (joiner, next) ← takeSign text pos
      return (some joiner, next)
    else if b == ')' then return (none, pos)
    else if b == '\n' then
      let line := runEnd isAnyBlank text pos
      if isSign text line then
        let (joiner, next) ← takeSign text line
        return (some joiner, next)
      else return (none, pos)
    else if (← direction? text pos).isSome then fail text .replacementForJoiner pos
    else if b == '#' || b == '(' || b == '!' then fail text .joinerMissing pos
    else fail text (.joinerExpected (← charAt text pos)) pos

/-- Operands with joiners between them. An operand has to get ahead, and a joiner must not go
back. -/
def takeChain (inside : Bool) (operand : Nat → Except Stop (Taken Clause)) (pos : Nat) :
    Except Stop (Taken (List Member)) :=
  match operand pos with
  | .error stop => .error stop
  | .ok (c, behind) =>
    match takeJoiner? text inside behind with
    | .error stop => .error stop
    | .ok (joiner?, next) =>
      if _ : pos < behind ∧ behind ≤ next ∧ next ≤ byteLength text then
        match joiner? with
        | none => .ok ([⟨c, .or⟩], next)
        | some joiner =>
          match takeChain inside operand next with
          | .error stop => .error stop
          | .ok (more, last) => .ok (⟨c, joiner⟩ :: more, last)
      else .error (.slip (.round pos))
termination_by byteLength text - pos
decreasing_by omega

/-- A group; `opening` is the offset of its parenthesis. -/
def takeGroup (operand : Nat → Except Stop (Taken Clause)) (opening : Nat) :
    Except Stop (Taken Group) := do
  let pos ← skipAny text (← moveTo text (opening + 1))
  if byteAt? text pos == some ')' then fail text .groupEmpty opening
  else
    let (members, next) ← takeChain text true operand pos
    if byteAt? text next == some ')' then return (⟨false, members⟩, ← moveTo text (next + 1))
    else fail text .groupUnclosed opening

/-- What may stand behind the negation of an operand. -/
def takePlainOperand (inside : Bool) (group : Nat → Except Stop (Taken Group)) (pos : Nat) :
    Except Stop (Taken Clause) := do
  match byteAt? text pos with
  | none => fail text .operandMissing pos
  | some b =>
    if b == '(' then
      let (g, next) ← group pos
      return (.group g, next)
    else if b == '#' then
      if (← direction? text pos).isSome then
        fail text (if inside then .replacementInGroup else .replacementInExpression) pos
      else
        let (spell, next) ← takeSpell text pos
        return (.spell spell, next)
    else if b == ')' && !inside then fail text .strayClose pos
    else fail text (.operandExpected (← charAt text pos)) pos

/-- The cursor behind the sign of a negation, if that is at the cursor, and whether it was. -/
def takeMark (inside : Bool) (pos : Nat) : Except Stop (Taken Bool) := do
  if byteAt? text pos == some '!' then
    return (true, ← skipBlanks text inside (← moveTo text (pos + 1)))
  else return (false, pos)

/-- An operand: a spell or a group, negated by `!`. -/
def takeOperand (inside : Bool) (group : Nat → Except Stop (Taken Group)) (pos : Nat) :
    Except Stop (Taken Clause) := do
  let (negated, next) ← takeMark text inside (← skipBlanks text inside pos)
  let (c, behind) ← takePlainOperand text inside group next
  return (c.negateIf negated, behind)

/-- A group inside which parentheses may be nested `levels` deep less one. -/
def takeGroupWithin (limit : Nat) :
    (levels : Nat) → (opening : Nat) → Except Stop (Taken Group)
  | 0, opening => fail text (.nestedTooDeep limit) opening
  | levels + 1, opening =>
    takeGroup text (takeOperand text true (takeGroupWithin limit levels)) opening

/-- A chain outside parentheses. -/
def takeStatementChain (limit pos : Nat) : Except Stop (Taken (List Member)) :=
  takeChain text false (takeOperand text false (takeGroupWithin text limit limit)) pos

/-! ### Statements -/

/-- A replacement rule; the cursor is on its sign. -/
def takeReplacement (direction : Direction) (start : Nat) : Except Stop (Taken Replacement) := do
  let pos ← moveTo text (start + 1 + byteLength direction.word.toList)
  let (scope, opening) ← takeScope? text pos
  if byteAt? text opening == some '(' then
    let (p, next) ← takePattern text (← skipInline text (← moveTo text (opening + 1)))
    let next ← skipInline text next
    if byteAt? text next == some ',' then
      let (t, behind) ← takeText text opening (← moveTo text (next + 1))
      return (Replacement.make scope p (String.ofList t), behind)
    else return (Replacement.make scope p "", ← takeClose text opening next)
  else fail text (.replacementNeedsPattern direction) start

/-- The cursor at the end of the line of a replacement rule; no joiner may be behind that. -/
def takeLineEnd (behind : Nat) : Except Stop Nat := do
  let pos ← skipInline text behind
  if (byteAt? text pos).all (· == '\n') then
    let next := runEnd isAnyBlank text pos
    if isSign text next then fail text .joinerAfterReplacement next else return pos
  else if isSign text pos then fail text .joinerAfterReplacement pos
  else fail text (.lineEndExpected (← charAt text pos)) pos

/-- One statement. -/
def takeStatement (limit pos : Nat) : Except Stop (Taken Statement) := do
  match ← direction? text pos with
  | some direction =>
    let (rule, behind) ← takeReplacement text direction pos
    return (.replacement direction rule, ← takeLineEnd text behind)
  | none =>
    let (members, behind) ← takeStatementChain text limit pos
    if byteAt? text behind == some ')' then fail text .strayClose behind
    else return (.clause (statementClause members), behind)

/-- All statements of a text. A statement has to get ahead. -/
def takeStatements (limit pos : Nat) : Except Stop (List Statement) :=
  match hstart : skipAny text pos with
  | .error stop => .error stop
  | .ok start =>
    have := le_of_skipAny text hstart
    if _ : byteLength text ≤ start then .ok []
    else
      match takeStatement text limit start with
      | .error stop => .error stop
      | .ok (statement, behind) =>
        if _ : start < behind then
          match takeStatements limit behind with
          | .error stop => .error stop
          | .ok more => .ok (statement :: more)
        else .error (.slip (.round start))
termination_by byteLength text - pos
decreasing_by omega

/-- The document of a text, or why the reader stops. -/
def takeDocument (limits : Limits) : Except Stop Document :=
  if limits.size < byteLength text then
    fail text (.sourceTooLarge (byteLength text) limits.size) 0
  else (takeStatements text limits.depth 0).map ofStatements

end

/-- Reads a rule list. -/
def parse (source : String) (limits : Limits := {}) : Except Slip (Except SourceFault Document) :=
  match takeDocument source.toList limits with
  | .ok document => .ok (.ok document)
  | .error (.fault cause offset) => .ok (.error ⟨cause, .atOffset source offset⟩)
  | .error (.slip slip) => .error slip

end PostFilter.Document.Cursor
