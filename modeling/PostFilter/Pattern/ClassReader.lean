import PostFilter.Pattern.Reader

/-!
# Patterns — reading a bracketed class

A class is a union of items; `&&`, `--` and `~~` combine the unions on their sides from left to
right, without precedence. Open brackets and pending operators are kept on a stack of `ClassFrame`s.
-/

namespace PostFilter.Pattern

open PostFilter.Text

/-- The set that `[:name:]` stands for. -/
def asciiClass? : String → Option CharSet
  | "alnum" => some (.ofRanges [(48, 57), (65, 90), (97, 122)])
  | "alpha" => some (.ofRanges [(65, 90), (97, 122)])
  | "ascii" => some (.range 0 127)
  | "blank" => some (.ofRanges [(9, 9), (32, 32)])
  | "cntrl" => some (.ofRanges [(0, 31), (127, 127)])
  | "digit" => some (.range 48 57)
  | "graph" => some (.range 33 126)
  | "lower" => some (.range 97 122)
  | "print" => some (.range 32 126)
  | "punct" => some (.ofRanges [(33, 47), (58, 64), (91, 96), (123, 126)])
  | "space" => some (.ofRanges [(9, 13), (32, 32)])
  | "upper" => some (.range 65 90)
  | "word" => some (.ofRanges [(48, 57), (65, 90), (95, 95), (97, 122)])
  | "xdigit" => some (.ofRanges [(48, 57), (65, 70), (97, 102)])
  | _ => none

/-- `[:name:]` or `[:^name:]` from behind its first bracket on. Anything else is not an error: the
bracket then opens a nested class. -/
def readAsciiClass? (s : List Char) : Option (Reading ClassItem s) := do
  let colon ← (Reading.stay () s).sign? ':'
  let caret := colon.sign? '^'
  let start := caret.getD colon
  let name := start.andThen (.run (· != ':') start.rest)
  let close ← (← name.sign? ':').sign? ']'
  let set ← asciiClass? (String.ofList name.value)
  pure (close.map fun _ => .ascii set caret.isSome)

/-- One end of a range, or an item on its own, from its first character on. -/
def readClassPart (spaced : Bool) (c : Char) (rest : List Char) :
    Except Fault (Reading Primitive rest) :=
  if c == '\\' then readEscape spaced rest else .ok (.stay (.literal ⟨c, false⟩) rest)

/-- A part as an item of its own. -/
def Primitive.classItem? : Primitive → Except Fault ClassItem
  | .literal l => .ok (.literal l)
  | .property name negated => .ok (.property name negated)
  | .short kind negated => .ok (.short kind negated)
  | .assertion _ => .error .classEscapeInvalid

/-- A part as one end of a range. -/
def Primitive.rangeEnd? : Primitive → Except Fault Literal
  | .literal l => .ok l
  | _ => .error .classRangeLiteral

/-- An item that starts with `c`: a range, if a `-` follows that does not end the class and is not
the operator `--`. -/
def readClassItem (spaced : Bool) (c : Char) (rest : List Char) :
    Except Fault (Reading ClassItem rest) := do
  let first ← readClassPart spaced c rest
  match (first.andThen (skipped spaced first.rest)).next? with
  | none => throw .classUnclosed
  | some dash =>
    let next := peekAfter spaced dash.rest
    if dash.value != '-' || next == some ']' || next == some '-' then
      let item ← first.value.classItem?
      pure (first.andThen ((skipped spaced first.rest).map fun _ => item))
    else
      match (dash.andThen (skipped spaced dash.rest)).next? with
      | none => throw .classUnclosed
      | some e =>
        let second ← readClassPart spaced e.value e.rest
        let lo ← first.value.rangeEnd?
        let hi ← second.value.rangeEnd?
        if hi.char < lo.char then throw .classRangeInvalid
        pure (e.andThen (second.map fun _ => .range lo hi))

/-- What follows an opening bracket: `^` for negation, then any number of `-` and, if there was
none, a `]`, all literal. -/
def readClassOpening (spaced : Bool) (s : List Char) :
    Except Fault (Reading (Bool × List ClassItem) s) := do
  let start := skipped spaced s
  let caret := start.sign? '^'
  let negated := caret.isSome
  let first := (caret.map fun c => c.andThen (skipped spaced c.rest)).getD start
  let dashes := first.andThen (scan spaced (· == '-') first.rest)
  let items := dashes.value.map fun c => ClassItem.literal ⟨c, false⟩
  if dashes.rest.isEmpty then throw .classUnclosed
  match if items.isEmpty then dashes.sign? ']' else none with
  | none => pure (dashes.map fun _ => (negated, items))
  | some close =>
    let behind := close.andThen (skipped spaced close.rest)
    if behind.rest.isEmpty then throw .classUnclosed
    pure (behind.map fun _ => (negated, [.literal ⟨']', false⟩]))

/-- What waits for the class in hand to be finished. -/
inductive ClassFrame where
  | opened (outer : List ClassItem) (negated : Bool)
  | pending (op : ClassOp) (lhs : ClassSet)

/-- Applies a pending operator to what stands on its right. -/
def closeOperator (items : List ClassItem) : List ClassFrame → ClassSet × List ClassFrame
  | .pending op lhs :: stack => (.binary op lhs (.union items.reverse), stack)
  | stack => (.union items.reverse, stack)

def classOp? : Char → Option ClassOp
  | '&' => some .inter
  | '-' => some .diff
  | '~' => some .symmDiff
  | _ => none

/-- An operator is its character twice. -/
def readClassOp? (c : Char) (rest : List Char) : Option (Reading ClassOp rest) :=
  match rest with
  | d :: more => if c == d then (classOp? c).map fun op => .skipOne op d more else none
  | [] => none

/-- A whole bracketed class. `items` holds the items of the innermost open bracket, last one first,
and `stack` what is open around it, that bracket included. -/
def readClassFrom (spaced : Bool) (stack : List ClassFrame) (items : List ClassItem)
    (s : List Char) : Except Fault (Reading Tree s) :=
  match (skipped spaced s).take? with
  | none => .error .classUnclosed
  | some c =>
    have := c.lt
    if c.value == '[' then
      match readAsciiClass? c.rest with
      | some r =>
        have := r.le
        (readClassFrom spaced stack (r.value :: items) r.rest).map fun next =>
          c.toReading.andThen (r.andThen next)
      | none =>
        match readClassOpening spaced c.rest with
        | .error fault => .error fault
        | .ok r =>
          have := r.le
          let opened := ClassFrame.opened items r.value.1
          (readClassFrom spaced (opened :: stack) r.value.2.reverse r.rest).map fun next =>
            c.toReading.andThen (r.andThen next)
    else if c.value == ']' then
      match closeOperator items stack with
      | (set, [.opened _ negated]) => .ok (c.toReading.map fun _ => .bracketed negated set)
      | (set, .opened outer negated :: below) =>
        (readClassFrom spaced below (.nested negated set :: outer) c.rest).map
          c.toReading.andThen
      | _ => .error .classUnclosed
    else
      match readClassOp? c.value c.rest with
      | some r =>
        have := r.le
        let (lhs, below) := closeOperator items stack
        (readClassFrom spaced (.pending r.value lhs :: below) [] r.rest).map fun next =>
          c.toReading.andThen (r.andThen next)
      | none =>
        match readClassItem spaced c.value c.rest with
        | .error fault => .error fault
        | .ok r =>
          have := r.le
          (readClassFrom spaced stack (r.value :: items) r.rest).map fun next =>
            c.toReading.andThen (r.andThen next)
termination_by s.length
decreasing_by all_goals omega

/-- A bracketed class from behind its first bracket on. -/
def readClass (spaced : Bool) (s : List Char) : Except Fault (Reading Tree s) := do
  let opening ← readClassOpening spaced s
  let (negated, items) := opening.value
  let r ← readClassFrom spaced [.opened [] negated] items.reverse opening.rest
  pure (opening.andThen r)

end PostFilter.Pattern
