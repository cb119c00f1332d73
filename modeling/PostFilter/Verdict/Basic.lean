import PostFilter.Ruleset.Basic
import PostFilter.Verdict.Walk

/-!
# Verdicts of rulesets

`Ruleset.judge` decides whether a ruleset hides a post. It never fails; it says besides whether a
lookup failed on the way, because such a verdict is not worth remembering.
-/

namespace PostFilter

/-- Decides for a post; also says whether a lookup failed. -/
def Ruleset.judge (r : Ruleset) (settings : Settings) (post : Post) :
    PostInquiry (Verdict × Bool) :=
  match r.filter with
  | none => .done ({}, false)
  | some root =>
    (root.walk settings post).bind fun f => .done (Verdict.ofOutcome f.outcome, f.degraded)

/-- Decides for a post. -/
def Ruleset.verdict (r : Ruleset) (settings : Settings) (post : Post) : PostInquiry Verdict :=
  (r.judge settings post).bind fun (v, _) => .done v

end PostFilter
