/-!
# Char sets — sets of code points

A set of characters is kept as sorted, disjoint, non-adjacent ranges of code points, both ends
included. `CharSet.ofRanges` brings any list of ranges into that form, membership is a binary
search, and the Boolean operations are `union`, `complement`, `inter`, `diff` and `symmDiff`.

The tables of this folder are those of edition 16.0 of the character set.
-/

namespace PostFilter

/-- A set of code points: sorted, disjoint, non-adjacent ranges, both ends included. -/
structure CharSet where
  ranges : Array (Nat × Nat)
  deriving DecidableEq, Repr, Inhabited

namespace CharSet

/-- The largest code point. -/
def maxCode : Nat := 0x10FFFF

def empty : CharSet := ⟨#[]⟩

/-- Every code point. -/
def full : CharSet := ⟨#[(0, maxCode)]⟩

/-- One range. -/
def range (lo hi : Nat) : CharSet := ⟨#[(lo, hi)]⟩

/-- One code point. -/
def single (n : Nat) : CharSet := range n n

/-- Binary search among `ranges[lo], …, ranges[hi - 1]`; `fuel` bounds the number of halvings. -/
def search (ranges : Array (Nat × Nat)) (n : Nat) : (fuel lo hi : Nat) → Bool
  | 0, _, _ => false
  | fuel + 1, lo, hi =>
    if lo < hi then
      let mid := (lo + hi) / 2
      match ranges[mid]? with
      | none => false
      | some (a, b) =>
        if n < a then search ranges n fuel lo mid
        else if b < n then search ranges n fuel (mid + 1) hi
        else true
    else false

/-- Whether the set holds the code point `n`. -/
def contains (s : CharSet) (n : Nat) : Bool :=
  search s.ranges n (s.ranges.size + 1) 0 s.ranges.size

/-- Whether the set holds the character `c`. -/
def has (s : CharSet) (c : Char) : Bool := s.contains c.toNat

/-- Joins sorted ranges that overlap or touch, the range from `a` to `b` being the first. -/
def joinOnto (a b : Nat) : List (Nat × Nat) → List (Nat × Nat)
  | [] => [(a, b)]
  | (c, d) :: rest =>
    if c ≤ b + 1 then joinOnto a (max b d) rest else (a, b) :: joinOnto c d rest

/-- Joins sorted ranges that overlap or touch. -/
def join : List (Nat × Nat) → List (Nat × Nat)
  | [] => []
  | (a, b) :: rest => joinOnto a b rest

/-- The set that holds exactly the points of the given ranges. -/
def ofRanges (rs : List (Nat × Nat)) : CharSet :=
  ⟨(join (rs.mergeSort fun p q => p.1 ≤ q.1)).toArray⟩

def union (s t : CharSet) : CharSet :=
  if t.ranges.isEmpty then s
  else if s.ranges.isEmpty then t
  else ofRanges (s.ranges.toList ++ t.ranges.toList)

/-- The gaps of sorted ranges from `next` on. -/
def gaps (next : Nat) : List (Nat × Nat) → List (Nat × Nat)
  | [] => if next ≤ maxCode then [(next, maxCode)] else []
  | (a, b) :: rest =>
    if next < a then (next, a - 1) :: gaps (b + 1) rest else gaps (b + 1) rest

def complement (s : CharSet) : CharSet := ⟨(gaps 0 s.ranges.toList).toArray⟩

def inter (s t : CharSet) : CharSet := (s.complement.union t.complement).complement

def diff (s t : CharSet) : CharSet := s.inter t.complement

def symmDiff (s t : CharSet) : CharSet := (s.union t).diff (s.inter t)

/-- The union of a list of sets. -/
def unions (sets : List CharSet) : CharSet :=
  ofRanges (sets.flatMap fun s => s.ranges.toList)

/-- The complement when `negated`, else the set itself. -/
def negateIf (negated : Bool) (s : CharSet) : CharSet := if negated then s.complement else s

/-- Whether every point is an ASCII code point. -/
def isAscii (s : CharSet) : Bool := s.ranges.all fun r => r.2 < 128

end CharSet

end PostFilter
