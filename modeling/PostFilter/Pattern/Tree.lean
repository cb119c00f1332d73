import PostFilter.CharSet.Basic

/-!
# Patterns — the written form as a tree

`Tree` is a regular expression as it was written: nothing is resolved yet, so a switch such as
`(?i)` is a node of its own, a class keeps its items, and a property keeps its name. What a tree
means is said in `PostFilter.Pattern.Meaning`.
-/

namespace PostFilter.Pattern

/-- The switches that a pattern may turn on and off inside itself. -/
inductive Switch where
  | ignoreCase
  | multiLine
  | dotAll
  | swapGreed
  | unicode
  | crlf
  | ignoreSpace
  deriving DecidableEq, Repr

/-- What `(?is-x)` says: each switch with its new state. -/
abbrev SwitchChange := List (Switch × Bool)

/-- The new state of `switch`, if the change mentions it. -/
def SwitchChange.state? (change : SwitchChange) (switch : Switch) : Option Bool :=
  (change.find? fun entry => entry.1 = switch).map (·.2)

/-- A position that matches without taking a character. -/
inductive Assertion where
  | lineStart
  | lineEnd
  | textStart
  | textEnd
  | wordBoundary
  | notWordBoundary
  | wordStart
  | wordEnd
  | wordStartHalf
  | wordEndHalf
  deriving DecidableEq, Repr

/-- A literal character; `isByte` marks the two-digit form `\x7F`. -/
structure Literal where
  char : Char
  isByte : Bool
  deriving DecidableEq, Repr

/-- `\d`, `\s`, `\w`. -/
inductive ShortClass where
  | digit
  | space
  | word
  deriving DecidableEq, Repr

/-- The name in `\pL`, `\p{Greek}` and `\p{sc=Greek}`. -/
inductive PropertyName where
  | plain (name : String)
  | valued (name value : String)
  deriving DecidableEq, Repr

/-- How two classes are combined inside brackets. -/
inductive ClassOp where
  | inter
  | diff
  | symmDiff
  deriving DecidableEq, Repr

mutual

/-- One item of a bracketed class. -/
inductive ClassItem where
  | literal (literal : Literal)
  | range (lo hi : Literal)
  | ascii (set : CharSet) (negated : Bool)
  | property (name : PropertyName) (negated : Bool)
  | short (kind : ShortClass) (negated : Bool)
  | nested (negated : Bool) (set : ClassSet)

/-- What stands between brackets. -/
inductive ClassSet where
  | union (items : List ClassItem)
  | binary (op : ClassOp) (lhs rhs : ClassSet)

end

/-- What a pair of parentheses is for. -/
inductive GroupKind where
  | capture (index : Nat) (name : Option String)
  | plain (change : SwitchChange)

/-- A regular expression as written. -/
inductive Tree where
  | empty
  | switches (change : SwitchChange)
  | literal (literal : Literal)
  | dot
  | assertion (assertion : Assertion)
  | property (name : PropertyName) (negated : Bool)
  | short (kind : ShortClass) (negated : Bool)
  | bracketed (negated : Bool) (set : ClassSet)
  | repetition (min : Nat) (max : Option Nat) (greedy : Bool) (sub : Tree)
  | group (kind : GroupKind) (sub : Tree)
  | alternation (branches : List Tree)
  | concat (parts : List Tree)

/-- A sequence; one part stands for itself. -/
def Tree.ofParts : List Tree → Tree
  | [] => .empty
  | [tree] => tree
  | parts => .concat parts

/-! ### Nesting -/

mutual

/-- How deep brackets are nested in a class item. -/
def ClassItem.depth : ClassItem → Nat
  | .nested _ set => set.depth + 1
  | _ => 0

/-- How deep brackets are nested in a class. -/
def ClassSet.depth : ClassSet → Nat
  | .union items => if 1 < items.length then ClassSet.itemsDepth items + 1 else
      ClassSet.itemsDepth items
  | .binary _ lhs rhs => max lhs.depth rhs.depth + 1

/-- The greatest depth among items. -/
def ClassSet.itemsDepth : List ClassItem → Nat
  | [] => 0
  | item :: rest => max item.depth (ClassSet.itemsDepth rest)

end

mutual

/-- How deep a tree is nested; characters, switches, assertions and simple classes have no depth. -/
def Tree.depth : Tree → Nat
  | .bracketed _ set => set.depth + 1
  | .repetition _ _ _ sub => sub.depth + 1
  | .group _ sub => sub.depth + 1
  | .alternation branches => Tree.listDepth branches + 1
  | .concat parts => Tree.listDepth parts + 1
  | _ => 0

/-- The greatest depth among trees. -/
def Tree.listDepth : List Tree → Nat
  | [] => 0
  | tree :: rest => max tree.depth (Tree.listDepth rest)

end

end PostFilter.Pattern
