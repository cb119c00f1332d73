import PostFilter.Clause.Value
import PostFilter.Verdict.SpellValue

/-!
# Verdicts — even and odd spells

A spell is odd in a group if an odd number of negated groups stand around it; else it is even. Its
own negation is not counted. The more even spells are true, and the fewer odd ones, the more does
the group hold.

Even and odd spells may be read with different values (`Group.holdsBy`). That tells apart what a
failed lookup does to the spells on either side.
-/

namespace PostFilter

mutual

/-- The spells of a clause that are odd in it, or those that are even. -/
def Clause.spellsOf (odd : Bool) : Clause → List Spell
  | .spell s => if odd then [] else [s]
  | .group g => g.spellsOf odd

/-- The spells of a group that are odd in it, or those that are even. -/
def Group.spellsOf (odd : Bool) : Group → List Spell
  | ⟨negated, members⟩ => Group.memberSpellsOf (odd != negated) members

/-- The spells of members that are odd in them, or those that are even. -/
def Group.memberSpellsOf (odd : Bool) : List Member → List Spell
  | [] => []
  | ⟨c, _⟩ :: rest => c.spellsOf odd ++ Group.memberSpellsOf odd rest

end

mutual

/-- Whether a clause holds when its even and its odd spells are read in two ways. -/
def Clause.holdsBy (even odd : Spell → Bool) : Clause → Bool
  | .spell s => even s
  | .group g => g.holdsBy even odd

/-- Whether a group holds when its even and its odd spells are read in two ways. -/
def Group.holdsBy (even odd : Spell → Bool) : Group → Bool
  | ⟨false, members⟩ => (Group.foldHolds even odd none .or members).getD false
  | ⟨true, members⟩ => !(Group.foldHolds odd even none .or members).getD false

/-- What members come to behind the value `found`; `link` is the joiner before them. -/
def Group.foldHolds (even odd : Spell → Bool) (found : Option Bool) (link : Joiner) :
    List Member → Option Bool
  | [] => found
  | ⟨c, joiner⟩ :: rest =>
    Group.foldHolds even odd (link.applyPresent found (some (c.holdsBy even odd))) joiner rest

end

/-- Whether one table of answers has every answer of another one. -/
structure Services.Extends (more fewer : Services) : Prop where
  signature : ∀ a hash, fewer (.signature a) = some hash → more (.signature a) = some hash
  details : ∀ v found, fewer (.details v) = some found → more (.details v) = some found

end PostFilter
