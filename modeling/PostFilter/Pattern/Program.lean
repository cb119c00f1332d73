import PostFilter.Pattern.Expr

/-!
# Patterns — programs

An expression is compiled to a list of instructions for a machine that is in several places at once.
`emit expr next` appends the code of `expr` that goes on at `next` and hands back its entry, so a
sequence is compiled from its last part to its first. A `split` lists its targets in the order in
which they are preferred.
-/

namespace PostFilter.Pattern

/-- One instruction; `next` is the address of the one that follows. -/
inductive Instr where
  | char (c : Char) (next : Nat)
  | set (s : CharSet) (next : Nat)
  | look (look : Look) (next : Nat)
  | split (targets : List Nat)
  | save (slot next : Nat)
  | accept
  deriving Inhabited

/-- A compiled expression. Slots `2 * i` and `2 * i + 1` hold the bounds of capture `i`. -/
structure Program where
  code : Array Instr
  entry : Nat
  /-- Names of the captures; entry `i` belongs to capture `i + 1`. -/
  groups : Array (Option String)

/-- Code under construction: the address to enter at, and the instructions so far. -/
abbrev Code := Nat × Array Instr

/-- Appends one instruction and enters there. -/
def Code.add (code : Array Instr) (instr : Instr) : Code := (code.size, code.push instr)

/-- A choice between `first` and `second`; a lazy one prefers the second. -/
def Instr.choice (greedy : Bool) (first second : Nat) : Instr :=
  .split (if greedy then [first, second] else [second, first])

/-- Applies a step `n` times. -/
def iterate {α : Type} (step : α → α) : Nat → α → α
  | 0, a => a
  | n + 1, a => iterate step n (step a)

/-- One or more rounds of `body`, then `next`. -/
def emitPlus (greedy : Bool) (body : Code → Code) (next : Nat) (code : Array Instr) : Code × Nat :=
  let loop := code.size
  let (entry, code) := body (loop, code.push (.split []))
  ((entry, code.set! loop (.choice greedy entry next)), loop)

/-- Any number of rounds. Where a round may take nothing, the loop is entered through a choice of
its own, so that an empty round is not preferred to leaving. -/
def emitStar (greedy takesChar : Bool) (body : Code → Code) (next : Nat) (code : Array Instr) :
    Code :=
  let ((entry, code), loop) := emitPlus greedy body next code
  if takesChar then (loop, code) else Code.add code (.choice greedy entry next)

/-- At most `n` rounds, each inside the choice of the one before. -/
def emitAtMost (greedy : Bool) (body : Code → Code) (next : Nat) (n : Nat) (code : Array Instr) :
    Code :=
  iterate (fun c =>
    let (entry, code) := body c
    Code.add code (.choice greedy entry next)) n (next, code)

mutual

/-- Appends the code of an expression that goes on at the given address. -/
def Expr.emit : Expr → Code → Code
  | .empty, c => c
  | .char ch, (next, code) => Code.add code (.char ch next)
  | .set s, (next, code) => Code.add code (.set s next)
  | .look l, (next, code) => Code.add code (.look l next)
  | .capture index _ sub, (next, code) =>
    let (entry, code) := sub.emit (Code.add code (.save (2 * index + 1) next))
    Code.add code (.save (2 * index) entry)
  | .concat parts, c => Expr.emitAll parts c
  | .alternation branches, (next, code) =>
    let (entries, code) := Expr.emitEach branches next code
    Code.add code (.split entries)
  | .repetition min max greedy sub, (next, code) =>
    match max with
    | some m =>
      iterate sub.emit min (emitAtMost greedy sub.emit next (m - min) code)
    | none =>
      if min == 0 then emitStar greedy sub.takesChar sub.emit next code
      else iterate sub.emit (min - 1) (emitPlus greedy sub.emit next code).1

/-- Appends the code of a sequence. -/
def Expr.emitAll : List Expr → Code → Code
  | [], c => c
  | part :: rest, c => part.emit (Expr.emitAll rest c)

/-- Appends the code of each branch, all going on at `next`; hands back the entries. -/
def Expr.emitEach : List Expr → Nat → Array Instr → List Nat × Array Instr
  | [], _, code => ([], code)
  | branch :: rest, next, code =>
    let (entries, code) := Expr.emitEach rest next code
    let (entry, code) := branch.emit (next, code)
    (entry :: entries, code)

end

/-- The names of the captures by index; an index that has no capture has no name. -/
def Expr.groups (expr : Expr) : Array (Option String) :=
  let captures := expr.captures
  let count := captures.foldl (fun n c => max n c.1) 0
  ((List.range count).map fun i => (captures.lookup (i + 1)).join).toArray

/-- The program of an expression. -/
def Expr.program (expr : Expr) : Program :=
  let (entry, code) := expr.emit (Code.add #[] .accept)
  ⟨code, entry, expr.groups⟩

end PostFilter.Pattern
