import PostFilter.Proofs.Verdict.Walk
import PostFilter.Verdict.Account
import PostFilter.Verdict.Steps

/-!
# Verdicts — the walk gives an account

The loop of the walk comes to an end with what the recursion finds (`WalkState.steps_running`), and
never looks for a frame where there is none (`WalkState.isLost_steps`). With every lookup answered,
the recursion finds what the plain evaluation of the filter finds, and asks what its account says:
the lookups of the spells that are visited, in order (`Group.run_decide`).

`Ruleset.judge_refines` puts this together.
-/

namespace PostFilter

variable {settings : Settings} {post : Post} {services : Services}

/-! ### Spells -/

namespace Spell

/-- Whether a fact is found as a probe says: with its hit, and by its lookup alone. -/
def IsFoundBy {α : Type} (services : Services) (passes : α → Bool) (find : PostInquiry (Option α))
    (probe : Probe) : Prop :=
  (find.run services).1.map passes = probe.hit ∧ (find.run services).2 = probe.lookup.toList

theorem findSignature_isFoundBy (passes : UInt64 → Bool) (a : Attachment) :
    IsFoundBy services passes a.findSignature
      (.ofFact a.signature (.signature a) (services (.signature a)) passes) := by
  rw [Attachment.findSignature]
  cases a.signature <;> exact ⟨rfl, rfl⟩

theorem findTitle_isFoundBy (passes : String → Bool) (v : Video) :
    IsFoundBy services passes v.findTitle
      (.ofFact v.title (.details v) ((services (.details v)).map VideoDetails.title) passes) := by
  rw [Video.findTitle]
  cases v.title <;> exact ⟨rfl, rfl⟩

theorem findAuthor_isFoundBy (passes : String → Bool) (v : Video) :
    IsFoundBy services passes v.findAuthor
      (.ofFact v.author (.details v) ((services (.details v)).map VideoDetails.author) passes) := by
  rw [Video.findAuthor]
  cases v.author <;> exact ⟨rfl, rfl⟩

/-- A search makes one probe for each item, up to the first hit. -/
theorem run_search {α β : Type} {fact : α → PostInquiry (Option β)} {passes : β → Bool}
    {probe : α → Probe} (h : ∀ item, IsFoundBy services passes (fact item) (probe item)) :
    ∀ (items : List α) (failed : Bool), (search fact passes failed items).run services =
      (⟨(items.map probe).any fun p => p.hit == some true,
          failed || (Probe.made (items.map probe)).any fun p => p.hit.isNone⟩,
        (Probe.made (items.map probe)).filterMap Probe.lookup)
  | [], failed => by simp [search, Inquiry.run, Probe.made]
  | item :: rest, failed => by
      obtain ⟨hhit, hlookup⟩ := h item
      have hkeys (ps : List Probe) : (probe item :: ps).filterMap Probe.lookup =
          ((fact item).run services).2 ++ ps.filterMap Probe.lookup := by
        rw [hlookup, List.filterMap_cons]
        cases (probe item).lookup <;> rfl
      rw [search, Inquiry.run_bind, List.map_cons, Probe.made]
      cases hfact : ((fact item).run services).1 with
      | none =>
          have hprobe : (probe item).hit = none := by rw [← hhit, hfact]; rfl
          simp [hprobe, hkeys, run_search h rest]
      | some b =>
          have hprobe : (probe item).hit = some (passes b) := by rw [← hhit, hfact]; rfl
          dsimp only
          cases hb : passes b with
          | true => simp [hprobe, hb, hkeys, Inquiry.run]
          | false => simp [hprobe, hb, hkeys, run_search h rest]

/-- A spell whose kind may not ask makes no probes. -/
theorem probes_of_not_mayAsk {s : Spell} (h : ¬ s.kind.mayAsk = true) :
    s.probes settings post services = [] := by
  obtain ⟨kind, argument, scope, negated⟩ := s
  cases kind <;> first | rfl | exact absurd rfl h

/-- **A spell is examined as its account says.** -/
theorem run_examine (s : Spell) : (s.examine settings post).run services =
    (⟨s.matchesPost settings post services, s.hasFailure settings post services⟩,
      s.lookups settings post services) := by
  rw [matchesPost, hasFailure, lookups]
  by_cases hask : s.kind.mayAsk = true
  · rw [examine, if_pos hask, if_pos hask]
    obtain ⟨kind, argument, scope, negated⟩ := s
    cases kind with
    | ihash =>
        cases argument with
        | none => rfl
        | some a =>
            cases a with
            | signature hash => exact run_search (findSignature_isFoundBy _) _ _
            | _ => rfl
    | video =>
        cases argument with
        | none => simp [lookUp, probes, Inquiry.run, Probe.made, SpellValue.known]
        | some a =>
            cases a with
            | pattern p => exact run_search (findTitle_isFoundBy _) _ _
            | _ => rfl
    | vauthor =>
        cases argument with
        | none => rfl
        | some a =>
            cases a with
            | text text => exact run_search (findAuthor_isFoundBy _) _ _
            | _ => rfl
    | _ => cases hask
  · rw [examine, if_neg hask, if_neg hask, probes_of_not_mayAsk hask]
    rfl

/-- The value of a spell with its negation is what it counts as. -/
theorem value_eq_countsAs (s : Spell) :
    SpellValue.value ⟨s.matchesPost settings post services, s.hasFailure settings post services⟩
      s.negated = s.countsAs settings post services := by
  rw [countsAs]
  change (!(_ && !_) && _) = _
  cases s.hasFailure settings post services && !s.matchesPost settings post services <;> rfl

end Spell

/-- A spell whose kind may not ask is decided by the post. -/
theorem Clause.decide_plain {s : Spell} (hs : s.kind.mayAsk = false) :
    Clause.decide settings post (.spell s) =
      .done ⟨⟨s.holds settings post != s.negated, [s]⟩, false⟩ := by
  rw [Clause.decide, Spell.examine, if_neg (by rw [hs]; exact Bool.false_ne_true)]
  rfl

/-! ### Groups -/

/-- How outcomes are joined: both traces are kept where both sides are needed, and otherwise that of
the side that decides. -/
theorem Outcome.join_eq (o next : Outcome) (joiner : Joiner) :
    o.join joiner next =
      match joiner, o.value, next.value with
      | .and, true, true | .or, false, false => ⟨o.value, o.trace ++ next.trace⟩
      | .and, false, _ | .or, true, _ => o
      | .and, true, false | .or, false, true => next := by
  obtain ⟨value, trace⟩ := o
  obtain ⟨value', trace'⟩ := next
  cases joiner <;> cases value <;> cases value' <;> rfl

/-- An outcome that is joined to one that does not settle the matter brings its value. -/
theorem Outcome.value_joinTo_of_unsettled {found : Option Outcome} {link : Joiner}
    (h : (found.any fun o => o.settles link) = false) (o : Outcome) :
    (Outcome.joinTo found link o).value = o.value := by
  cases found with
  | none => rfl
  | some o' =>
      rw [Option.any_some] at h
      rw [joinTo, join, if_neg (by rw [h]; decide)]
      split
      · rfl
      · rename_i hnext
        cases link <;> simp_all [settles]

theorem any_isSettledBy (found : Option Outcome) (link : Joiner) :
    (found.map Outcome.value).any link.isSettledBy = found.any fun o => o.settles link := by
  cases found with
  | none => rfl
  | some o => cases link <;> rfl

section Groups

variable (settings : Settings) (post : Post) (services : Services)

mutual

theorem Clause.run_decide : ∀ c : Clause, (c.decide settings post).run services =
    (⟨c.outcome (Spell.countsAs settings post services),
        (c.visited (Spell.countsAs settings post services)).any
          (Spell.hasFailure settings post services)⟩,
      (c.visited (Spell.countsAs settings post services)).flatMap
        (Spell.lookups settings post services))
  | .spell s => by
      rw [Clause.decide, Inquiry.run_bind, Spell.run_examine, Clause.outcome, Clause.visited]
      simp [Inquiry.run, Spell.value_eq_countsAs]
  | .group g => Group.run_decide g

/-- **A group is decided as its account says.** It comes to its plain evaluation with what the
spells count as; it is degraded if a lookup of a visited spell fails; and it asks the lookups of the
visited spells. -/
theorem Group.run_decide : ∀ g : Group, (g.decide settings post).run services =
    (⟨g.outcome (Spell.countsAs settings post services),
        (g.visited (Spell.countsAs settings post services)).any
          (Spell.hasFailure settings post services)⟩,
      (g.visited (Spell.countsAs settings post services)).flatMap
        (Spell.lookups settings post services))
  | ⟨negated, members⟩ => by
      rw [Group.decide, Inquiry.run_bind, Group.run_decideMembers members, Group.outcome,
        Group.visited]
      simp [Inquiry.run]

theorem Group.run_decideMembers : ∀ (members : List Member) (found : Option Outcome)
    (link : Joiner) (degraded : Bool),
    (Group.decideMembers settings post found link degraded members).run services =
      (⟨(Group.foldOutcome (Spell.countsAs settings post services) found link members).getD
          Outcome.nothing,
        degraded || (Group.foldVisited (Spell.countsAs settings post services)
            (found.map Outcome.value) link members).any
          (Spell.hasFailure settings post services)⟩,
        (Group.foldVisited (Spell.countsAs settings post services) (found.map Outcome.value) link
          members).flatMap (Spell.lookups settings post services))
  | [], found, link, degraded => by
      simp [Group.decideMembers, Group.foldOutcome, Group.foldVisited, Inquiry.run]
  | ⟨c, joiner⟩ :: rest, found, link, degraded => by
      rw [Group.decideMembers, Group.foldOutcome, Group.foldVisited, any_isSettledBy]
      split
      · exact Group.run_decideMembers rest found joiner degraded
      · rename_i h
        have hvalue := Outcome.value_joinTo_of_unsettled (Bool.not_eq_true _ ▸ h)
          (c.outcome (Spell.countsAs settings post services))
        rw [Inquiry.run_bind, Clause.run_decide c, Group.run_decideMembers rest, Option.map_some,
          hvalue]
        simp [Clause.isTrue, Bool.or_assoc]

end

end Groups

/-! ### The loop -/

namespace Frame

/-- A clause and the frame behind it weigh less than the frame that they are taken from. -/
theorem stackWeight_behind {f behind : Frame} {c : Clause} {returned : Option Outcome}
    (h : (f.accept returned).next? = some (c, behind)) (below : List Frame) :
    sizeOf c + stackWeight (behind :: below) < stackWeight (f :: below) := by
  have hweight := weight_next? h
  rw [weight_accept] at hweight
  simp only [stackWeight_cons]
  omega

theorem weight_ofGroup_lt (g : Group) : (ofGroup g).weight < sizeOf (Clause.group g) := by
  obtain ⟨negated, members⟩ := g
  simp only [ofGroup, weight, Clause.group.sizeOf_spec, Group.mk.sizeOf_spec]
  omega

end Frame

namespace WalkState

theorem steps_finished (f : Finding) :
    ∀ n, steps settings post n (.finished f) = .done (.finished f)
  | 0 => rfl
  | n + 1 => by rw [steps, step, Inquiry.pure_bind, steps_finished f n]

/-- **The loop ends with what is walked to.** It takes no more rounds than the stack has weight. -/
theorem steps_running (f : Frame) (below : List Frame) (returned : Option Outcome)
    (degraded : Bool) (n : Nat) (hn : Frame.stackWeight (f :: below) ≤ n) :
    steps settings post n (.running (f :: below) returned degraded) =
      (Frame.walk settings post (f :: below) returned degraded).bind fun found =>
        .done (.finished found) := by
  induction n generalizing f below returned degraded with
  | zero =>
      simp only [Frame.stackWeight_cons, Frame.weight] at hn
      omega
  | succ n ih =>
      rw [steps, step, Frame.walk]
      simp only [List.head?_cons, List.tail_cons]
      cases hnext : (f.accept returned).next? with
      | none =>
          cases below with
          | nil => exact steps_finished _ n
          | cons next rest =>
              refine ih next rest _ _ ?_
              simp only [Frame.stackWeight_cons, Frame.weight] at hn ⊢
              omega
      | some found =>
          obtain ⟨c, behind⟩ := found
          have hweight := Frame.stackWeight_behind hnext below
          cases c with
          | spell s =>
              dsimp only
              rw [Inquiry.bind_assoc, Inquiry.bind_assoc]
              congr 1
              funext v
              exact ih behind below _ _ (by omega)
          | group g =>
              have hgroup := Frame.weight_ofGroup_lt g
              refine ih _ (behind :: below) _ _ ?_
              rw [Frame.stackWeight_cons]
              omega

/-- Whether there is a frame to go on with, or the walk is over with a finding. -/
def HasFrame : WalkState → Prop
  | .running stack _ _ => stack ≠ []
  | .finished _ => True
  | .lost _ => False

theorem HasFrame.step : ∀ {state : WalkState}, state.HasFrame →
    ((state.step settings post).value services).HasFrame
  | .finished _, _ => trivial
  | .running (top :: below) returned degraded, _ => by
      rw [WalkState.step]
      simp only [List.head?_cons, List.tail_cons]
      match (top.accept returned).next? with
      | some (.spell s, behind) =>
          rw [Inquiry.value_bind]
          exact List.cons_ne_nil _ _
      | some (.group g, behind) => exact List.cons_ne_nil _ _
      | none =>
          match below with
          | [] => trivial
          | next :: rest => exact List.cons_ne_nil _ _

theorem HasFrame.steps : ∀ (n : Nat) {state : WalkState}, state.HasFrame →
    ((state.steps settings post n).value services).HasFrame
  | 0, _, h => h
  | n + 1, _, h => by
      rw [WalkState.steps, Inquiry.value_bind]
      exact HasFrame.steps n h.step

theorem HasFrame.isLost : ∀ {state : WalkState}, state.HasFrame → state.isLost = false
  | .running .., _ => rfl
  | .finished _, _ => rfl

end WalkState

/-! ### Rulesets -/

/-- **The walk refines the recursion.** The verdict is what the recursion finds. The loop ends with
that, whatever is answered, and is never lost. With every lookup answered, the verdict is the plain
evaluation of the filter with what its spells count as, it is degraded if a lookup of a visited
spell fails, and the lookups are those of the visited spells in order. -/
theorem Ruleset.judge_refines (r : Ruleset) (settings : Settings) (post : Post) :
    match r.filter with
    | none => r.judge settings post = .done ({}, false)
    | some g =>
      (r.judge settings post = (g.decide settings post).bind fun f =>
        .done (Verdict.ofOutcome f.outcome, f.degraded)) ∧
      (∃ n, (WalkState.start g).steps settings post n =
        (g.decide settings post).bind fun f => .done (.finished f)) ∧
      (∀ n services, (((WalkState.start g).steps settings post n).value services).isLost =
        false) ∧
      (∀ services : Services,
        let value := Spell.countsAs settings post services
        (r.judge settings post).run services =
          ((Verdict.ofOutcome (g.outcome value),
              (g.visited value).any (Spell.hasFailure settings post services)),
            (g.visited value).flatMap (Spell.lookups settings post services))) ∧
      (∀ negated value, Group.outcome value ⟨negated, []⟩ = ⟨negated, []⟩) ∧
      ∀ (o next : Outcome) (joiner : Joiner), o.join joiner next =
        match joiner, o.value, next.value with
        | .and, true, true | .or, false, false => ⟨o.value, o.trace ++ next.trace⟩
        | .and, false, _ | .or, true, _ => o
        | .and, true, false | .or, false, true => next := by
  cases hfilter : r.filter with
  | none => rw [Ruleset.judge, hfilter]
  | some g =>
      have hjudge : r.judge settings post = (g.decide settings post).bind fun f =>
          .done (Verdict.ofOutcome f.outcome, f.degraded) := by
        rw [Ruleset.judge, hfilter]
        dsimp only
        rw [g.walk_eq_decide]
      have hstart : (WalkState.start g).HasFrame := List.cons_ne_nil _ _
      refine ⟨hjudge, ⟨Frame.stackWeight [Frame.ofGroup g], ?_⟩,
        fun n _ => (hstart.steps n).isLost, fun services => ?_, fun negated _ => ?_,
        Outcome.join_eq⟩
      · rw [← g.walk_eq_decide]
        exact WalkState.steps_running _ _ _ _ _ (Nat.le_refl _)
      · dsimp only
        rw [hjudge, Inquiry.run_bind, g.run_decide]
        simp [Inquiry.run]
      · cases negated <;> rfl

end PostFilter
