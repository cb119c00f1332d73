import PostFilter.CharSet.Folding
import PostFilter.Pattern.Expr
import PostFilter.Pattern.Property

/-!
# Patterns — what a tree means

`Tree.resolve` turns a tree into an expression under the switches that are on where it stands. A
change of switches holds to the end of the innermost group around it, later branches included, so
the switches are handed on from each part to the next.

Letter case is ignored by closing sets under case: an item of a class before it joins its class, and
the class itself before it is negated. Without the Unicode switch only ASCII is known to classes,
and a class that leaves ASCII is refused, since it could match a part of a character.
-/

namespace PostFilter.Pattern

/-- The switches in force at a place of a pattern. -/
structure Switches where
  ignoreCase : Bool := false
  multiLine : Bool := false
  dotAll : Bool := false
  swapGreed : Bool := false
  unicode : Bool := true
  crlf : Bool := false
  deriving DecidableEq, Repr

/-- The switches after a change. -/
def Switches.apply (sw : Switches) (change : SwitchChange) : Switches where
  ignoreCase := (change.state? .ignoreCase).getD sw.ignoreCase
  multiLine := (change.state? .multiLine).getD sw.multiLine
  dotAll := (change.state? .dotAll).getD sw.dotAll
  swapGreed := (change.state? .swapGreed).getD sw.swapGreed
  unicode := (change.state? .unicode).getD sw.unicode
  crlf := (change.state? .crlf).getD sw.crlf

namespace Switches

/-- The set closed under case, if case is ignored. -/
def fold (sw : Switches) (s : CharSet) : CharSet :=
  if !sw.ignoreCase then s else if sw.unicode then s.foldCase else s.foldAscii

/-- The set of a class: closed under case, then negated; without Unicode it must be ASCII. -/
def finishClass (sw : Switches) (negated : Bool) (s : CharSet) : Except Fault CharSet :=
  let set := (sw.fold s).negateIf negated
  if sw.unicode || set.isAscii then .ok set else .error .invalidText

/-- A literal as a character. -/
def literal (sw : Switches) (l : Literal) : Except Fault Char :=
  if !sw.unicode && l.isByte && 128 ≤ l.char.toNat then .error .invalidText else .ok l.char

/-- A literal of a class. -/
def classLiteral (sw : Switches) (l : Literal) : Except Fault Nat := do
  let c ← sw.literal l
  if !sw.unicode && 128 ≤ c.toNat then throw .unicodeNotAllowed
  pure c.toNat

/-- The set of `\d`, `\s` or `\w`. -/
def shortClass (sw : Switches) (kind : ShortClass) (negated : Bool) : Except Fault CharSet :=
  let set :=
    match kind, sw.unicode with
    | .digit, true => CharSet.decimalDigit
    | .space, true => CharSet.whiteSpace
    | .word, true => wordSet
    | .digit, false => .range 48 57
    | .space, false => .ofRanges [(9, 13), (32, 32)]
    | .word, false => .ofRanges [(48, 57), (65, 90), (95, 95), (97, 122)]
  let set := set.negateIf negated
  if sw.unicode || set.isAscii then .ok set else .error .invalidText

/-- The set of a named property. -/
def property (sw : Switches) (name : PropertyName) (negated : Bool) : Except Fault CharSet := do
  if !sw.unicode then throw .unicodeNotAllowed
  sw.finishClass negated (← name.charSet)

/-- The characters that `.` matches. -/
def dot (sw : Switches) : Except Fault CharSet :=
  if !sw.unicode then .error .invalidText
  else if sw.dotAll then .ok .full
  else if sw.crlf then .ok (CharSet.ofRanges [(10, 10), (13, 13)]).complement
  else .ok (CharSet.single 10).complement

/-- The condition that an assertion stands for. -/
def assertion (sw : Switches) : Assertion → Look
  | .lineStart =>
    if !sw.multiLine then .textStart else if sw.crlf then .lineStartCrlf else .lineStart
  | .lineEnd => if !sw.multiLine then .textEnd else if sw.crlf then .lineEndCrlf else .lineEnd
  | .textStart => .textStart
  | .textEnd => .textEnd
  | .wordBoundary => .boundary sw.unicode
  | .notWordBoundary => .notBoundary sw.unicode
  | .wordStart => .wordStart sw.unicode
  | .wordEnd => .wordEnd sw.unicode
  | .wordStartHalf => .wordStartHalf sw.unicode
  | .wordEndHalf => .wordEndHalf sw.unicode

/-- A literal as an expression: one character, or the set of its case forms. -/
def literalExpr (sw : Switches) (l : Literal) : Except Fault Expr := do
  let c ← sw.literal l
  if !sw.ignoreCase then pure (.char c)
  else if sw.unicode then pure (.set (CharSet.foldSingle c.toNat))
  else pure (.set (CharSet.single c.toNat).foldAscii)

end Switches

mutual

/-- The set of one item of a class. -/
def ClassItem.resolve (sw : Switches) : ClassItem → Except Fault CharSet
  | .literal l => do pure (.single (← sw.classLiteral l))
  | .range lo hi => do
    let a ← sw.classLiteral lo
    let b ← sw.classLiteral hi
    pure (.range a b)
  | .ascii set negated => sw.finishClass negated set
  | .property name negated => sw.property name negated
  | .short kind negated => sw.shortClass kind negated
  | .nested negated set => do sw.finishClass negated (← set.resolve sw)

/-- The set of a class before it is closed under case and negated. -/
def ClassSet.resolve (sw : Switches) : ClassSet → Except Fault CharSet
  | .union items => ClassSet.resolveItems sw items
  | .binary op lhs rhs => do
    let a ← lhs.resolve sw
    let b ← rhs.resolve sw
    match op with
    | .inter => pure ((sw.fold a).inter (sw.fold b))
    | .diff => pure ((sw.fold a).diff (sw.fold b))
    | .symmDiff => pure ((sw.fold a).symmDiff (sw.fold b))

/-- The union of the sets of items. -/
def ClassSet.resolveItems (sw : Switches) : List ClassItem → Except Fault CharSet
  | [] => .ok .empty
  | item :: rest => do
    let a ← item.resolve sw
    let b ← ClassSet.resolveItems sw rest
    pure (a.union b)

end

mutual

/-- The expression of a tree, and the switches in force behind it. -/
def Tree.resolve (sw : Switches) : Tree → Except Fault (Expr × Switches)
  | .empty => .ok (.empty, sw)
  | .switches change => .ok (.empty, sw.apply change)
  | .literal l => do pure (← sw.literalExpr l, sw)
  | .dot => do pure (.set (← sw.dot), sw)
  | .assertion a => .ok (.look (sw.assertion a), sw)
  | .property name negated => do pure (.set (← sw.property name negated), sw)
  | .short kind negated => do pure (.set (← sw.shortClass kind negated), sw)
  | .bracketed negated set => do
    pure (.set (← sw.finishClass negated (← set.resolve sw)), sw)
  | .repetition min max greedy sub => do
    let (expr, sw') ← sub.resolve sw
    pure (.repeated min max (greedy != sw'.swapGreed) expr, sw')
  | .group (.capture index name) sub => do
    let (expr, _) ← sub.resolve sw
    pure (.capture index name expr, sw)
  | .group (.plain change) sub => do
    let (expr, _) ← sub.resolve (sw.apply change)
    pure (expr, sw)
  | .alternation branches => do
    let (exprs, sw') ← Tree.resolveList sw branches
    pure (.alternation exprs, sw')
  | .concat parts => do
    let (exprs, sw') ← Tree.resolveList sw parts
    pure (.concat exprs, sw')

/-- The expressions of a list of trees, the switches handed on from each to the next. -/
def Tree.resolveList (sw : Switches) : List Tree → Except Fault (List Expr × Switches)
  | [] => .ok ([], sw)
  | tree :: rest => do
    let (expr, sw') ← tree.resolve sw
    let (exprs, sw'') ← Tree.resolveList sw' rest
    pure (expr :: exprs, sw'')

end

end PostFilter.Pattern
