import PostFilter.Verdict.Outcome

/-!
# Verdicts — evaluation with known values

What a group comes to when the value of every spell is known. Members are joined strictly from left
to right, and a member is passed over if the value so far settles the matter under the joiner before
it. This is the evaluation of posts without what makes the values of spells known.
-/

namespace PostFilter

mutual

/-- What a clause comes to. -/
def Clause.outcome (value : Spell → Bool) : Clause → Outcome
  | .spell s => ⟨value s, [s]⟩
  | .group g => g.outcome value

/-- What a group comes to; one without members is false before its negation. -/
def Group.outcome (value : Spell → Bool) : Group → Outcome
  | ⟨negated, members⟩ =>
    ((Group.foldOutcome value none .or members).getD Outcome.nothing).negateIf negated

/-- What members come to behind the outcome `found`; `link` is the joiner before them. -/
def Group.foldOutcome (value : Spell → Bool) (found : Option Outcome) (link : Joiner) :
    List Member → Option Outcome
  | [] => found
  | ⟨c, joiner⟩ :: rest =>
    if found.any fun o => o.settles link then Group.foldOutcome value found joiner rest
    else
      Group.foldOutcome value (some (Outcome.joinTo found link (c.outcome value))) joiner rest

end

/-- Whether a clause comes to true. -/
def Clause.isTrue (value : Spell → Bool) (c : Clause) : Bool := (c.outcome value).value

/-- Whether a group comes to true. -/
def Group.isTrue (value : Spell → Bool) (g : Group) : Bool := (g.outcome value).value

end PostFilter
