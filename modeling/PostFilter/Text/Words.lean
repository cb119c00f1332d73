import PostFilter.Text.Blank

/-!
# Text — words and lines

Ways to take a text apart that lose what stands between the parts, and the search for a text inside
another one.
-/

namespace PostFilter.Text

/-- The maximal runs of characters that do not satisfy `p`. -/
def wordsBetween (p : Char → Bool) (s : List Char) : List (List Char) :=
  (splitAll p s).filter fun word => !word.isEmpty

/-- The maximal runs without blanks. -/
def words (s : List Char) : List (List Char) := wordsBetween isBlank s

/-- The lines of a text up to its last character that is no blank, each without the blanks around
it. A text of blanks has no lines. -/
def trimmedLines (s : List Char) : List (List Char) :=
  match trimEnd s with
  | [] => []
  | c :: rest => (splitAll (· == '\n') (c :: rest)).map trimList

/-- Whether `needle` stands somewhere in a text. -/
def occursIn (needle : List Char) : List Char → Bool
  | [] => needle.isEmpty
  | c :: rest => needle.isPrefixOf (c :: rest) || occursIn needle rest

end PostFilter.Text
