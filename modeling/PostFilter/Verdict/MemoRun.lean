import PostFilter.Verdict.Memo

/-!
# Verdicts — a memo in use

A memo is used step by step. A post is judged by way of it, or is to be judged and given up at a
lookup; the memo is made that of a ruleset; one post is forgotten, or everything is.
`VerdictMemo.after` is the memo that some steps make of an empty one, when a table answers every
lookup.

What the memo should hold can be told from the steps without the memo: the ruleset that it was made
the memo of last (`MemoStep.boundAfter`), and the post that was judged last under a number and not
forgotten since (`MemoStep.knownAfter`).
-/

namespace PostFilter

/-- One use of a memo. -/
inductive MemoStep where
  | judge (ruleset : Ruleset) (post : Post)
  /-- The memo is asked for a post, and the decision is given up before it is made. -/
  | giveUp (ruleset : Ruleset) (post : Post)
  | bind (ruleset : Ruleset)
  | invalidate (number : UInt64)
  | clear

namespace MemoStep

/-- The ruleset of a step. -/
def ruleset? : MemoStep → Option Ruleset
  | judge r _ | giveUp r _ | bind r => some r
  | invalidate _ | clear => none

/-- The ruleset that a memo is that of after a step. -/
def boundBy (bound : Option Ruleset) : MemoStep → Option Ruleset
  | judge r _ | giveUp r _ | bind r => some r
  | invalidate _ => bound
  | clear => none

/-- The post that a number stands for after a step. -/
def knownBy (number : UInt64) (known : Option Post) : MemoStep → Option Post
  | judge _ post => if post.number = number then some post else known
  | giveUp .. | bind _ => known
  | invalidate n => if n = number then none else known
  | clear => none

/-- The ruleset that a memo is that of after some steps. -/
def boundAfter (steps : List MemoStep) : Option Ruleset := steps.foldl boundBy none

/-- The post that was judged last under a number, unless it was forgotten since. -/
def knownAfter (steps : List MemoStep) (number : UInt64) : Option Post :=
  steps.foldl (knownBy number) none

/-- What a step makes of a memo. -/
def apply (settings : Settings) (services : Services) (m : VerdictMemo) : MemoStep → VerdictMemo
  | judge r post => ((m.judge r settings post).value services).2
  | giveUp r post => (m.remembered r post).2
  | bind r => (m.bind r).2
  | invalidate number => (m.invalidate number).2
  | clear => m.clear

/-- Whether rulesets of one fingerprint and place have one filter. -/
def FiltersAgree (steps : List MemoStep) : Prop :=
  ∀ r ∈ steps.filterMap ruleset?, ∀ r' ∈ steps.filterMap ruleset?,
    r.fingerprint = r'.fingerprint → r.place = r'.place → r.filter = r'.filter

/-- Whether a post is judged as it was when it was judged last, unless it was forgotten since. -/
def PostsStay (steps : List MemoStep) : Prop :=
  ∀ before r post rest, steps = before ++ judge r post :: rest →
    ∀ known ∈ knownAfter before post.number, known = post

end MemoStep

/-- The memo after some steps. -/
def VerdictMemo.after (settings : Settings) (services : Services) (capacity : Nat)
    (steps : List MemoStep) : VerdictMemo :=
  steps.foldl (MemoStep.apply settings services) (VerdictMemo.ofCapacity capacity)

end PostFilter
