import PostFilter.Verdict.Outcome
import PostFilter.Verdict.SpellValue

/-!
# Verdicts — groups by recursion

What a group comes to for a post. Its members are joined strictly from left to right; a member is
passed over if the value so far settles the matter under the joiner before it. A finished group is
negated if it says so; a group without members is false before that.

`Group.decide` is the plain reading of this. The walk in `PostFilter.Verdict.Walk` does the same
with open groups kept on a stack.
-/

namespace PostFilter

mutual

/-- What a clause comes to. -/
def Clause.decide (settings : Settings) (post : Post) : Clause → PostInquiry Finding
  | .spell s =>
    (s.examine settings post).bind fun v => .done ⟨⟨v.value s.negated, [s]⟩, v.lookupFailed⟩
  | .group g => Group.decide settings post g

/-- What a group comes to. -/
def Group.decide (settings : Settings) (post : Post) : Group → PostInquiry Finding
  | ⟨negated, members⟩ =>
    (Group.decideMembers settings post none .or false members).bind fun f =>
      .done ⟨f.outcome.negateIf negated, f.degraded⟩

/-- What members come to behind the outcome `found`; `link` is the joiner before them. -/
def Group.decideMembers (settings : Settings) (post : Post) (found : Option Outcome)
    (link : Joiner) (degraded : Bool) : List Member → PostInquiry Finding
  | [] => .done ⟨found.getD Outcome.nothing, degraded⟩
  | ⟨c, joiner⟩ :: rest =>
    if found.any fun o => o.settles link then
      Group.decideMembers settings post found joiner degraded rest
    else
      (Clause.decide settings post c).bind fun f =>
        Group.decideMembers settings post (some (Outcome.joinTo found link f.outcome)) joiner
          (degraded || f.degraded) rest

end

end PostFilter
