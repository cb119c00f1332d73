import PostFilter.Pattern.ClassReader

/-!
# Patterns — reading a whole pattern

`readTree` turns the text of a regular expression into its tree. One loop walks the text; the parts
of the sequence in hand, the branches before it and the groups around it are kept in `TreeState`.
-/

namespace PostFilter.Pattern

open PostFilter.Text

/-- What waits for the sequence in hand to be finished. -/
inductive TreeFrame where
  | group (outer : List Tree) (kind : GroupKind) (spaced : Bool)
  | branches (done : List Tree)

/-- The state of the loop. `parts` holds the sequence in hand, last part first. -/
structure TreeState where
  parts : List Tree := []
  stack : List TreeFrame := []
  spaced : Bool := false
  groups : Nat := 0
  names : List String := []

namespace TreeState

/-- The sequence in hand as one tree. -/
def sequence (st : TreeState) : Tree := .ofParts st.parts.reverse

/-- Adds a part to the sequence in hand. -/
def push (st : TreeState) (tree : Tree) : TreeState := { st with parts := tree :: st.parts }

/-- Ends a branch of an alternation. -/
def endBranch (st : TreeState) : TreeState :=
  match st.stack with
  | .branches done :: below =>
    { st with parts := [], stack := .branches (st.sequence :: done) :: below }
  | stack => { st with parts := [], stack := .branches [st.sequence] :: stack }

/-- The sequence in hand with the branches before it, and what is open around them. -/
def closeBranches (st : TreeState) : Tree × List TreeFrame :=
  match st.stack with
  | .branches done :: below => (.alternation (st.sequence :: done).reverse, below)
  | stack => (st.sequence, stack)

/-- Ends the innermost group. -/
def closeGroup (st : TreeState) : Except Fault TreeState :=
  match st.closeBranches with
  | (tree, .group outer kind spaced :: below) =>
    .ok { st with parts := .group kind tree :: outer, stack := below, spaced := spaced }
  | _ => .error .groupUnopened

/-- The finished tree; a group that is still open is a fault. -/
def finish (st : TreeState) : Except Fault Tree :=
  match st.closeBranches with
  | (tree, []) => .ok tree
  | _ => .error .groupUnclosed

/-- Opens a group. -/
def openGroup (st : TreeState) (kind : GroupKind) (spaced : Bool) : TreeState :=
  { st with parts := [], stack := .group st.parts kind st.spaced :: st.stack, spaced := spaced }

/-- Opens a capturing group. -/
def openCapture (st : TreeState) (name : Option String) : TreeState :=
  let index := st.groups + 1
  let st := { st with groups := index, names := name.toList ++ st.names }
  st.openGroup (.capture index name) st.spaced

/-- Applies a repetition to the last part; a switch cannot be repeated. -/
def repeatLast (st : TreeState) : Except Fault (Tree × List Tree) :=
  match st.parts with
  | [] | .empty :: _ | .switches _ :: _ => .error .repetitionMissing
  | tree :: before => .ok (tree, before)

/-- The last part repeated as `count` says. -/
def withRepeat (st : TreeState) (count : Repeat) (last : Tree × List Tree) : TreeState :=
  { st with parts := .repetition count.min count.max count.greedy last.1 :: last.2 }

end TreeState

/-- Whether a group starts with one of the marks of look-around. -/
def isLookAround (s : List Char) : Bool :=
  ["?=", "?!", "?<=", "?<!"].any fun mark => mark.toList.isPrefixOf s

/-- What stands between `?P<` or `?<` and the rest, if a name follows. -/
def namedGroup? (s : List Char) : Option (Reading Unit s) :=
  match s with
  | '?' :: 'P' :: '<' :: rest => some (((Reading.skipOne () '<' rest).past 'P').past '?')
  | '?' :: '<' :: rest => some ((Reading.skipOne () '<' rest).past '?')
  | _ => none

/-- A group or a change of switches, from behind its parenthesis on. -/
def readGroup (st : TreeState) (s : List Char) : Except Fault (Reading TreeState s) := do
  let start := skipped st.spaced s
  if isLookAround start.rest then throw .lookAround
  match namedGroup? start.rest with
  | some mark =>
    let name ← readName st.names mark.rest
    pure (start.andThen (mark.andThen (name.map fun n => st.openCapture (some n))))
  | none =>
    match start.sign? '?' with
    | none => pure (start.map fun _ => st.openCapture none)
    | some mark =>
      if mark.rest.isEmpty then throw .groupUnclosed
      let r ← readSwitches [] false false mark.rest
      let (change, stop) := r.value
      let spaced := (change.state? .ignoreSpace).getD st.spaced
      if stop == ')' then
        if change.isEmpty then throw .repetitionMissing
        let switched := { st with parts := .switches change :: st.parts, spaced := spaced }
        pure (mark.andThen (r.map fun _ => switched))
      else pure (mark.andThen (r.map fun _ => st.openGroup (.plain change) spaced))

/-- The mark that makes a repetition lazy. -/
def readLazy (s : List Char) : Reading Bool s :=
  match s with
  | '?' :: rest => .skipOne true '?' rest
  | other => .stay false other

/-- The bounds of the one-character repetitions. -/
def shortRepeat? : Char → Option (Nat × Option Nat)
  | '?' => some (0, some 1)
  | '*' => some (0, none)
  | '+' => some (1, none)
  | _ => none

/-- A part that is neither a group, a class nor a repetition. -/
def readPrimitive (spaced : Bool) (c : Char) (rest : List Char) :
    Except Fault (Reading Tree rest) :=
  match c with
  | '\\' =>
    (readEscape spaced rest).map fun r => r.map fun
      | .literal l => .literal l
      | .assertion a => .assertion a
      | .property name negated => .property name negated
      | .short kind negated => .short kind negated
  | '.' => .ok (.stay .dot rest)
  | '^' => .ok (.stay (.assertion .lineStart) rest)
  | '$' => .ok (.stay (.assertion .lineEnd) rest)
  | _ => .ok (.stay (.literal ⟨c, false⟩) rest)

/-- One step: what the character `c` and, where it needs them, the characters behind it do. -/
def TreeState.step (st : TreeState) (c : Char) (rest : List Char) :
    Except Fault (Reading TreeState rest) := do
  match c with
  | '(' => readGroup st rest
  | ')' => pure (.stay (← st.closeGroup) rest)
  | '|' => pure (.stay st.endBranch rest)
  | '[' => pure ((← readClass st.spaced rest).map st.push)
  | '{' =>
    let last ← st.repeatLast
    pure ((← readRepeat st.spaced rest).map fun count => st.withRepeat count last)
  | _ =>
    match shortRepeat? c with
    | some (min, max) =>
      let last ← st.repeatLast
      pure ((readLazy rest).map fun isLazy => st.withRepeat ⟨min, max, !isLazy⟩ last)
    | none => pure ((← readPrimitive st.spaced c rest).map st.push)

/-- The loop over the whole text. -/
def readTreeFrom (st : TreeState) (s : List Char) : Except Fault Tree :=
  match (skipped st.spaced s).take? with
  | none => st.finish
  | some c =>
    have := c.lt
    match st.step c.value c.rest with
    | .error fault => .error fault
    | .ok r => have := r.le; readTreeFrom r.value r.rest
termination_by s.length
decreasing_by omega

/-- How deep a pattern may be nested. -/
def nestLimit : Nat := 250

/-- The tree of a pattern; `spaced` says whether blanks and comments are skipped from the start. -/
def readTree (spaced : Bool) (s : List Char) : Except Fault Tree := do
  let tree ← readTreeFrom { spaced := spaced } s
  if nestLimit < tree.depth then throw (.nestedTooDeep nestLimit)
  pure tree

end PostFilter.Pattern
