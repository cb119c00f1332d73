import PostFilter.CharSet.Basic

/-!
# Char sets — recipes

Most properties of characters are put together from a few tables: the characters of some sets, less
those of some others. A `Recipe` keeps such a rule, and `Recipe.charSet` carries it out.
-/

namespace PostFilter.CharSet

/-- A rule for a set. -/
structure Recipe where
  /-- The sets whose members are taken. -/
  parts : List CharSet
  /-- The sets whose members are left out all the same. -/
  without : List CharSet := []

/-- The set that a recipe describes. -/
def Recipe.charSet (r : Recipe) : CharSet :=
  if r.without.isEmpty then unions r.parts else (unions r.parts).diff (unions r.without)

end PostFilter.CharSet
