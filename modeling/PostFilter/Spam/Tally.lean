import PostFilter.Spam.Detect
import PostFilter.Text.Lines
import Std.Data.HashMap

/-!
# Spam — repeated lines, counted in a map

The check for repeated lines in one pass over them: a map holds how often each line was met, and
then its entries are looked at, in whatever order they come. The lines may be hashed in any way.
-/

namespace PostFilter.Spam

open Text

/-- The lines that count: those up to the last character that is no blank, each without the blanks
around it. -/
def countedLines (text : List Char) : List (List Char) := (lines (trimEnd text)).map trimList

variable [Hashable (List Char)]

/-- Counts a line. -/
def countLine (counts : Std.HashMap (List Char) Nat) (line : List Char) :
    Std.HashMap (List Char) Nat :=
  counts.alter line fun copies? => some (copies?.getD 0 + 1)

/-- How often each line that is not empty is among some lines. -/
def tally (lines : List (List Char)) : Std.HashMap (List Char) Nat :=
  (lines.filter fun line => !line.isEmpty).foldl countLine ∅

/-- The check for repeated lines, by the entries of the map in the order in which they come. -/
def repeatsLinesBy (limits : SpamLimits) (text : List Char)
    (entries : List (List Char × Nat)) : Bool :=
  let total := (countedLines text).length
  limits.leastLines ≤ total &&
    entries.any fun (_, copies) => limits.repeatedLines ≤ copies && total < copies * 4

end PostFilter.Spam
