import PostFilter.Verdict.Basic
import PostFilter.Verdict.Evaluation
import PostFilter.Verdict.Fold

/-!
# Verdicts — the walk decides by recursion

A stack of frames stands for what is still to be decided: the members of the topmost group, and
then, group by group, what the groups below make of it (`Frame.resume`). A step of the walk never
changes that, so a walk asks and finds what `Group.decide` asks and finds (`Frame.walk_eq`,
`Group.walk_eq_decide`).

Once a table answers every lookup, each spell has one value (`Spell.truth`), and a verdict is the
plain evaluation of the filter with these values (`Ruleset.verdict_value`).
-/

namespace PostFilter

/-! ### Values of inquiries -/

namespace Inquiry

variable {κ : Type} {Answer : κ → Type} {α β γ : Type}

@[simp] theorem value_done (answers : (key : κ) → Answer key) (a : α) :
    (done a : Inquiry κ Answer α).value answers = a := rfl

@[simp] theorem value_bind (answers : (key : κ) → Answer key) (i : Inquiry κ Answer α)
    (f : α → Inquiry κ Answer β) :
    (i.bind f).value answers = (f (i.value answers)).value answers := by
  rw [value, run_bind]; rfl

theorem bind_assoc (i : Inquiry κ Answer α) (f : α → Inquiry κ Answer β)
    (g : β → Inquiry κ Answer γ) : (i.bind f).bind g = i.bind fun a => (f a).bind g := by
  induction i with
  | done a => rfl
  | ask key next ih => simp only [bind, ih]

theorem bind_done (i : Inquiry κ Answer α) : i.bind done = i := by
  induction i with
  | done a => rfl
  | ask key next ih => simp only [bind, ih]

end Inquiry

/-! ### A failure that came before -/

/-- The finding, degraded also if something before it was. -/
def Finding.mark (degraded : Bool) (f : Finding) : Finding := ⟨f.outcome, degraded || f.degraded⟩

variable {settings : Settings} {post : Post}

/-- That a lookup failed before members are decided only shows in the mark. -/
theorem Group.decideMembers_mark (found : Option Outcome) (link : Joiner) (degraded : Bool) :
    ∀ members : List Member, Group.decideMembers settings post found link degraded members =
      (Group.decideMembers settings post found link false members).bind fun f =>
        .done (f.mark degraded) := by
  intro members
  induction members generalizing found link degraded with
  | nil => simp [Group.decideMembers, Finding.mark]
  | cons m rest ih =>
      obtain ⟨c, joiner⟩ := m
      rw [Group.decideMembers, Group.decideMembers]
      split
      · exact ih found joiner degraded
      · rw [Inquiry.bind_assoc]
        congr 1
        funext f
        rw [ih _ _ _, ih _ _ (false || _), Inquiry.bind_assoc]
        simp only [Inquiry.pure_bind, Finding.mark, Bool.or_assoc, Bool.false_or]

/-! ### What a stack stands for -/

namespace Frame

/-- What is decided of the members of a frame, its negation applied. -/
def settle (settings : Settings) (post : Post) (f : Frame) (degraded : Bool) :
    PostInquiry Finding :=
  (Group.decideMembers settings post f.found f.link degraded f.members).bind fun found =>
    .done ⟨found.outcome.negateIf f.negated, found.degraded⟩

/-- What the frames of a stack make of a finding for which the topmost one waits. -/
def resume (settings : Settings) (post : Post) : List Frame → Finding → PostInquiry Finding
  | [], found => .done found
  | f :: below, found =>
    ((f.accept (some found.outcome)).settle settings post found.degraded).bind
      (resume settings post below)

/-- A frame without a next member has decided. -/
theorem settle_of_next?_eq_none {f : Frame} (h : f.next? = none) (degraded : Bool) :
    f.settle settings post degraded = .done ⟨f.close, degraded⟩ := by
  -- A member is skipped where the outcome is settled, and deciding the members skips it, too.
  have go : ∀ (members : List Member) (link : Joiner), next?.go f link members = none →
      Group.decideMembers settings post f.found link degraded members =
        .done ⟨f.found.getD Outcome.nothing, degraded⟩ := by
    intro members
    induction members with
    | nil => intro link _; rfl
    | cons m rest ih =>
        obtain ⟨d, joiner⟩ := m
        intro link h
        rw [next?.go] at h
        split at h
        · rename_i hskip
          rw [Group.decideMembers, if_pos hskip]
          exact ih joiner h
        · cases h
  rw [settle, go f.members f.link h]
  rfl

/-- A frame with a next member decides that one first, and then goes on as the frame behind it. -/
theorem settle_of_next?_eq_some {f f' : Frame} {c : Clause} (h : f.next? = some (c, f'))
    (degraded : Bool) :
    f.settle settings post degraded =
      (c.decide settings post).bind fun found =>
        (f'.accept (some found.outcome)).settle settings post (degraded || found.degraded) := by
  have go : ∀ (members : List Member) (link : Joiner), next?.go f link members = some (c, f') →
      f'.negated = f.negated ∧
      Group.decideMembers settings post f.found link degraded members =
        (c.decide settings post).bind fun found =>
          Group.decideMembers settings post (f'.accept (some found.outcome)).found f'.link
            (degraded || found.degraded) f'.members := by
    intro members
    induction members with
    | nil => intro link h; cases h
    | cons m rest ih =>
        obtain ⟨d, joiner⟩ := m
        intro link h
        rw [next?.go] at h
        split at h
        · rename_i hskip
          rw [Group.decideMembers, if_pos hskip]
          exact ih joiner h
        · rename_i hskip
          cases h
          rw [Group.decideMembers, if_neg hskip]
          exact ⟨rfl, rfl⟩
  obtain ⟨hnegated, hmembers⟩ := go f.members f.link h
  rw [settle, hmembers, Inquiry.bind_assoc]
  simp only [settle, accept, hnegated]

/-- An open group decides as the group does. -/
theorem settle_ofGroup (g : Group) (degraded : Bool) :
    (ofGroup g).settle settings post degraded =
      (g.decide settings post).bind fun found => .done (found.mark degraded) := by
  obtain ⟨negated, members⟩ := g
  simp only [settle, ofGroup]
  rw [Group.decideMembers_mark, Group.decide, Inquiry.bind_assoc, Inquiry.bind_assoc]
  rfl

/-- **A walk decides what its stack stands for.** -/
theorem walk_eq (settings : Settings) (post : Post) (f : Frame) (below : List Frame)
    (returned : Option Outcome) (degraded : Bool) :
    walk settings post (f :: below) returned degraded =
      ((f.accept returned).settle settings post degraded).bind (resume settings post below) := by
  generalize hstack : f :: below = stack
  fun_induction walk settings post stack returned degraded generalizing f below with
  | case1 => cases hstack
  | case2 returned degraded frame hnext =>
      cases hstack
      rw [settle_of_next?_eq_none hnext]
      rfl
  | case3 returned degraded frame hnext outcome next rest ih =>
      cases hstack
      -- The frame has decided; its outcome returns to the frame behind it.
      rw [ih next rest rfl, settle_of_next?_eq_none hnext]
      rfl
  | case4 returned degraded frame below s frame' hnext ih =>
      cases hstack
      rw [settle_of_next?_eq_some hnext, Clause.decide, Inquiry.bind_assoc, Inquiry.bind_assoc]
      congr 1
      funext v
      exact ih v frame' below rfl
  | case5 returned degraded frame below g frame' hnext ih =>
      cases hstack
      -- The group is decided on a frame of its own; what comes of it returns to the frame behind.
      rw [ih (ofGroup g) (frame' :: below) rfl, settle_of_next?_eq_some hnext, accept,
        settle_ofGroup, Inquiry.bind_assoc, Inquiry.bind_assoc]
      rfl

end Frame

/-- A group is walked as it is decided. -/
theorem Group.walk_eq_decide (settings : Settings) (post : Post) (g : Group) :
    g.walk settings post = g.decide settings post := by
  have hmark : (fun f : Finding => (.done (f.mark false) : PostInquiry Finding)) = .done := by
    funext f
    rw [Finding.mark, Bool.false_or]
  rw [Group.walk, Frame.walk_eq, Frame.accept, Frame.settle_ofGroup, hmark, Inquiry.bind_done]
  exact Inquiry.bind_done _

/-! ### With every lookup answered -/

variable {services : Services}

/-- The value of a spell for a post, its negation included. -/
def Spell.truth (settings : Settings) (post : Post) (services : Services) (s : Spell) : Bool :=
  ((s.examine settings post).value services).value s.negated

mutual

theorem Clause.decide_outcome : ∀ c : Clause,
    ((c.decide settings post).value services).outcome =
      c.outcome (Spell.truth settings post services)
  | .spell s => by
      rw [Clause.decide, Inquiry.value_bind]
      rfl
  | .group g => Group.decide_outcome g

/-- What a group comes to is its plain evaluation with the values of the spells. -/
theorem Group.decide_outcome : ∀ g : Group,
    ((g.decide settings post).value services).outcome =
      g.outcome (Spell.truth settings post services)
  | ⟨negated, members⟩ => by
      rw [Group.decide, Inquiry.value_bind, Inquiry.value_done,
        Group.decideMembers_outcome members, Group.outcome]

theorem Group.decideMembers_outcome : ∀ (members : List Member) (found : Option Outcome)
    (link : Joiner) (degraded : Bool),
    ((Group.decideMembers settings post found link degraded members).value services).outcome =
      (Group.foldOutcome (Spell.truth settings post services) found link members).getD
        Outcome.nothing
  | [], found, link, degraded => rfl
  | ⟨c, joiner⟩ :: rest, found, link, degraded => by
      rw [Group.decideMembers, Group.foldOutcome]
      split
      · exact Group.decideMembers_outcome rest found joiner degraded
      · rw [Inquiry.value_bind, Group.decideMembers_outcome rest, Clause.decide_outcome c]

end

/-- **A verdict is the plain evaluation of the filter.** -/
theorem Ruleset.verdict_value (r : Ruleset) (settings : Settings) (post : Post)
    (services : Services) :
    (r.verdict settings post).value services =
      (r.filter.map fun g =>
        Verdict.ofOutcome (g.outcome (Spell.truth settings post services))).getD {} := by
  rw [Ruleset.verdict, Ruleset.judge, Inquiry.value_bind]
  cases r.filter with
  | none => rfl
  | some g =>
      simp only [Group.walk_eq_decide, Inquiry.value_bind, Inquiry.value_done,
        Group.decide_outcome, Option.map_some, Option.getD_some]

end PostFilter
