import PostFilter.Verdict.Memo

/-!
# Verdicts — sessions

Posts judged on a timeline, where lookups take time and may be paused: one post, several side by
side, or one by way of a memo. A decision that takes longer than the patience is given up.
-/

namespace PostFilter

/-- The replies of a lookup service. -/
abbrev LookupService := Service Lookup Lookup.Answer

namespace Timeline

/-- Judges several posts side by side; the verdicts come in the order of the posts, or not at
all. -/
def judgeAll (service : LookupService) (patience : Nat) (t : Timeline) (r : Ruleset)
    (settings : Settings) (posts : List Post) : Timeline × Option (List Verdict) :=
  t.runAll service patience (posts.map (r.verdict settings))

/-- Judges one post. -/
def judge (service : LookupService) (patience : Nat) (t : Timeline) (r : Ruleset)
    (settings : Settings) (post : Post) : Timeline × Option Verdict :=
  let (t, verdicts) := t.judgeAll service patience r settings [post]
  (t, verdicts.bind List.head?)

/-- Judges posts one after another. -/
def judgeEach (service : LookupService) (patience : Nat) (t : Timeline) (r : Ruleset)
    (settings : Settings) : List Post → Timeline × List (Option Verdict)
  | [] => (t, [])
  | post :: rest =>
    let (t, v) := t.judge service patience r settings post
    let (t, vs) := t.judgeEach service patience r settings rest
    (t, v :: vs)

/-- Judges one post by way of a memo. When the decision is given up, the memo still was asked. -/
def judgeKept (service : LookupService) (patience : Nat) (t : Timeline) (m : VerdictMemo)
    (r : Ruleset) (settings : Settings) (post : Post) :
    Timeline × Option Verdict × VerdictMemo :=
  let (t, results) := t.runAll service patience [m.judge r settings post]
  match results with
  | some [(v, m)] => (t, some v, m)
  | _ => (t, none, (m.remembered r post).2)

/-- Judges posts one after another by way of a memo, which is given after each of them. -/
def judgeEachKept (service : LookupService) (patience : Nat) (t : Timeline) (m : VerdictMemo)
    (r : Ruleset) (settings : Settings) :
    List Post → Timeline × List (Option Verdict × VerdictMemo)
  | [] => (t, [])
  | post :: rest =>
    let (t, v, m) := t.judgeKept service patience m r settings post
    let (t, vs) := t.judgeEachKept service patience m r settings rest
    (t, (v, m) :: vs)

end Timeline

end PostFilter
