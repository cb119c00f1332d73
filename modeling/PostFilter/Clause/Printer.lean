import PostFilter.Clause.Basic

/-!
# Clauses — written form

A group is written in parentheses with its joiners between its members. The outermost group has
none, unless it is negated. One that joins more than one member by `or` only and does not fit the
width is written with one member to a line.
-/

namespace PostFilter

/-- How the outermost group is laid out. -/
structure Layout where
  /-- The longest line that is not broken. -/
  width : Nat := 80
  /-- Blanks before each line but the first. -/
  indent : Nat := 4

mutual

/-- The clause as it is written; a group is in parentheses. -/
def Clause.text : Clause → String
  | .spell s => s.text
  | .group g => g.text

/-- The group as it is written inside another one. -/
def Group.text : Group → String
  | ⟨negated, members⟩ => (if negated then "!(" else "(") ++ Group.chainText members ++ ")"

/-- Members with their joiners between them. -/
def Group.chainText : List Member → String
  | [] => ""
  | [⟨c, _⟩] => c.text
  | ⟨c, j⟩ :: m :: rest => c.text ++ " " ++ j.sign.toString ++ " " ++ Group.chainText (m :: rest)

end

/-- The outermost group as it is written. -/
def Group.rootText (layout : Layout) (g : Group) : String :=
  if g.negated then g.text
  else
    let line := Group.chainText g.members
    let isBroken := (g.members.all fun m => m.joiner == .or) && 2 ≤ g.members.length &&
      layout.width < line.length
    if isBroken then
      (" |\n" ++ String.ofList (List.replicate layout.indent ' ')).intercalate
        (g.clauses.map Clause.text)
    else line

/-- The outermost group in the default layout. -/
def Group.defaultText (g : Group) : String := g.rootText {}

end PostFilter
