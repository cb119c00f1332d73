import PostFilter.Pattern.Basic
import PostFilter.Replacement.Template
import PostFilter.Spell.Argument
import PostFilter.Spell.Scope

/-!
# Replacement — rules

A replacement rule replaces every match of a pattern. Rules are applied in order, each to what the
one before it left.

* `Replacement.make` — a rule from a user's template, which it normalizes.
* `Replacement.apply`, `Replacement.applyAll` — one rule, all rules.
-/

namespace PostFilter

/-- Which texts a replacement rule changes. -/
inductive Direction where
  /-- Posts that are shown. -/
  | incoming
  /-- Text that is about to be sent. -/
  | outgoing
  deriving DecidableEq, Repr

/-- The word written after `#`. -/
def Direction.word : Direction → String
  | .incoming => "rep"
  | .outgoing => "outrep"

/-- A replacement rule; its template is in the stored notation. -/
structure Replacement where
  scope : Option Scope
  pattern : Pattern
  template : String
  deriving DecidableEq

namespace Replacement

/-- The captures of a pattern. -/
def captures (p : Pattern) : Template.Captures where
  count := p.groups.size
  hasName name := p.groups.contains (some (String.ofList name))

/-- A user's template in the stored notation. -/
def normalize (p : Pattern) (template : String) : String :=
  String.ofList (Template.normalize (captures p) template.toList)

/-- A rule from a user's template. -/
def make (scope : Option Scope) (p : Pattern) (template : String) : Replacement :=
  ⟨scope, p, normalize p template⟩

/-- What a reference stands for at one match. A capture that took no part stands for nothing. -/
def referenceValue (groups : Array (Option String)) (text : List Char) (slots : Pattern.Slots)
    (r : Template.Reference) : List Char :=
  let index :=
    match r with
    | .number n => some n
    | .name name => (groups.findIdx? (· == some (String.ofList name))).map (· + 1)
  match index with
  | none => []
  | some i =>
    match slots.getD (2 * i) none, slots.getD (2 * i + 1) none with
    | some start, some stop => (text.drop start).take (stop - start)
    | _, _ => []

/-- The text from `position` on with the given matches replaced; `text` is the whole text, and
`rest` the part of it from `position` on. -/
def replaceFrom (groups : Array (Option String)) (template text : List Char) :
    (position : Nat) → (rest : List Char) → List Pattern.Slots → List Char
  | _, rest, [] => rest
  | position, rest, slots :: more =>
    let (start, stop) := slots.bounds
    rest.take (start - position) ++
      (Template.expand (referenceValue groups text slots) template ++
        replaceFrom groups template text stop (rest.drop (stop - position)) more)

/-- The text with every match of the rule's pattern replaced. -/
def apply (rule : Replacement) (text : String) : String :=
  let program := rule.pattern.program
  let cs := text.toList
  match program.findAll cs with
  | [] => text
  | found => String.ofList (replaceFrom program.groups rule.template.toList cs 0 cs found)

/-- The text after all rules. -/
def applyAll (rules : List Replacement) (text : String) : String :=
  rules.foldl (fun t rule => rule.apply t) text

/-- The rule as it is written. -/
def text (direction : Direction) (rule : Replacement) : String :=
  "#" ++ direction.word ++ (rule.scope.map Scope.text).getD "" ++ "(" ++ rule.pattern.text ++ "," ++
    escapeText rule.template ++ ")"

/-- The rules that apply at a place, in order. -/
def admitted (place : Option Place) (rules : List Replacement) : List Replacement :=
  rules.filter fun rule => admitsAt place rule.scope

end Replacement

end PostFilter
