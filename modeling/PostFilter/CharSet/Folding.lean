import PostFilter.CharSet.Basic
import PostFilter.CharSet.CaseTable

/-!
# Char sets — letter case ignored

`CharSet.foldCase s` adds to `s` every character that differs from one of its members in case only.
A cycle has at most four members, so three rounds of `foldOnce` close a set.
-/

namespace PostFilter.CharSet

/-- The next character of the case cycle of `n`. -/
def nextInCycle? (n : Nat) : Option Nat := foldCycles.findSome? fun run => run.map? n

/-- One step along every case cycle that `s` meets. -/
def foldOnce (s : CharSet) : CharSet :=
  let images := foldCycles.toList.flatMap fun run =>
    run.codes.filterMap fun n => if s.contains n then (run.map? n).map fun m => (m, m) else none
  ofRanges (s.ranges.toList ++ images)

/-- The set closed under letter case. -/
def foldCase (s : CharSet) : CharSet := s.foldOnce.foldOnce.foldOnce

/-- Up to `k` further members of the case cycle that `n` is on. -/
def cycleFrom : (k n : Nat) → List Nat
  | 0, _ => []
  | k + 1, n =>
    match nextInCycle? n with
    | none => []
    | some m => m :: cycleFrom k m

/-- The set of all characters that differ from `n` at most in case. -/
def foldSingle (n : Nat) : CharSet := ofRanges ((n :: cycleFrom 3 n).map fun m => (m, m))

/-- ASCII letters of the set in both cases; other characters as they are. -/
def foldAscii (s : CharSet) : CharSet :=
  let flip (from_ to_ shift : Nat) (down : Bool) : List (Nat × Nat) :=
    s.ranges.toList.filterMap fun (a, b) =>
      let lo := max a from_
      let hi := min b to_
      if lo ≤ hi then some (if down then (lo - shift, hi - shift) else (lo + shift, hi + shift))
      else none
  ofRanges (s.ranges.toList ++ flip 65 90 32 false ++ flip 97 122 32 true)

end PostFilter.CharSet
