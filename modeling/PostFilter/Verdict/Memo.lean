import PostFilter.Dispatch.Timeline
import PostFilter.Verdict.Basic
import Std.Data.HashMap

/-!
# Verdicts — memo

Verdicts are kept by post number for one ruleset. The memo knows the fingerprint and the place of
the ruleset for which it was filled, and forgets everything when it is used with a ruleset that
differs in either. It is bounded: when it is full, it starts over. A verdict that was found while a
lookup failed is not kept.
-/

namespace PostFilter

/-- Verdicts that were found, by post number. -/
structure VerdictMemo where
  /-- The fingerprint and place of the ruleset that the entries belong to. -/
  owner : Option (UInt64 × Place) := none
  entries : Std.HashMap UInt64 Verdict := ∅
  /-- The number of verdicts that are kept. -/
  capacity : Nat
  /-- Questions that were answered. -/
  hits : Nat := 0
  /-- Questions that were not answered. -/
  misses : Nat := 0

namespace VerdictMemo

/-- The number of verdicts that are kept when nothing else is said. -/
def defaultCapacity : Nat := 16384

/-- The memo without entries; it keeps at least one verdict. -/
def ofCapacity (capacity : Nat) : VerdictMemo := { capacity := max 1 capacity }

/-- The number of verdicts in the memo. -/
def size (m : VerdictMemo) : Nat := m.entries.size

def isEmpty (m : VerdictMemo) : Bool := m.entries.isEmpty

/-- Whether the entries belong to a ruleset. -/
def isOwnedBy (m : VerdictMemo) (r : Ruleset) : Bool :=
  m.owner.any fun (fingerprint, place) => r.isCurrent place fingerprint

/-- Makes the memo that of a ruleset; says whether verdicts were forgotten for it. -/
def bind (m : VerdictMemo) (r : Ruleset) : Bool × VerdictMemo :=
  if m.isOwnedBy r then (false, m)
  else (!m.isEmpty, { m with owner := some (r.fingerprint, r.place), entries := ∅ })

/-- The verdict of a post number; the question is counted. -/
def get (m : VerdictMemo) (number : UInt64) : Option Verdict × VerdictMemo :=
  match m.entries[number]? with
  | some v => (some v, { m with hits := m.hits + 1 })
  | none => (none, { m with misses := m.misses + 1 })

/-- Keeps a verdict; a full memo starts over, unless it knows the number. -/
def insert (m : VerdictMemo) (number : UInt64) (v : Verdict) : VerdictMemo :=
  if m.capacity ≤ m.entries.size && !m.entries.contains number then
    { m with entries := (∅ : Std.HashMap UInt64 Verdict).insert number v }
  else { m with entries := m.entries.insert number v }

/-- Forgets one verdict, and gives it. -/
def invalidate (m : VerdictMemo) (number : UInt64) : Option Verdict × VerdictMemo :=
  (m.entries[number]?, { m with entries := m.entries.erase number })

/-- Forgets everything, the counts too. -/
def clear (m : VerdictMemo) : VerdictMemo := ofCapacity m.capacity

/-- The share of questions that were answered; zero if there were none. -/
def hitRate (m : VerdictMemo) : Float :=
  if m.hits + m.misses = 0 then 0 else Float.ofNat m.hits / Float.ofNat (m.hits + m.misses)

/-- Asks for the verdict of a post under a ruleset. -/
def remembered (m : VerdictMemo) (r : Ruleset) (post : Post) : Option Verdict × VerdictMemo :=
  (m.bind r).2.get post.number

/-- Keeps a verdict, unless a lookup failed on the way to it. -/
def keep (m : VerdictMemo) (post : Post) (v : Verdict) (degraded : Bool) : VerdictMemo :=
  if degraded then m else m.insert post.number v

/-- Decides for a post, by the memo if it can. -/
def judge (m : VerdictMemo) (r : Ruleset) (settings : Settings) (post : Post) :
    PostInquiry (Verdict × VerdictMemo) :=
  match m.remembered r post with
  | (some v, m) => .done (v, m)
  | (none, m) =>
    (r.judge settings post).bind fun (v, degraded) => .done (v, m.keep post v degraded)

end VerdictMemo

end PostFilter
