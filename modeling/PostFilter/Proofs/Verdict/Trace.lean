import PostFilter.Proofs.Accepted.Canonical
import PostFilter.Proofs.Canonical.Fixpoint
import PostFilter.Proofs.Canonical.Meaning
import PostFilter.Proofs.Grammar.Documents
import PostFilter.Proofs.Verdict.Walk

/-!
# Verdicts — a trace explains its value

The trace of an outcome is taken from the spells of the filter, in their order
(`Group.trace_sublist`), and where every group has members it is not empty
(`Group.trace_ne_nil`). It is all that the value rests on: in another evaluation in which these
spells come out alike, so does the filter, whatever becomes of the others (`Group.forces_outcome`).

The value so far may differ between two evaluations of one group, because its trace is dropped as
soon as a later member decides. So the induction over the members carries an implication: *if* the
spells in the trace come out alike, *then* the values agree (`Outcome.Forces`).

`Ruleset.verdict_explained` says this of verdicts.
-/

namespace PostFilter

/-! ### Joining -/

namespace Outcome

/-- A member that is passed over makes no difference, so passing over is joining. -/
theorem joinTo_of_settled {found : Option Outcome} {link : Joiner}
    (h : (found.any fun o => o.settles link) = true) (next : Outcome) :
    some (joinTo found link next) = found := by
  obtain ⟨o, rfl, ho⟩ := (Option.any_eq_true _ _).1 h
  rw [joinTo, join, if_pos ho]

theorem settles_congr {o o' : Outcome} (h : o'.value = o.value) (joiner : Joiner) :
    o'.settles joiner = o.settles joiner := by
  cases joiner <;> rw [settles, settles, h]

/-- Outcomes that settle the same joiner have the same value. -/
theorem value_eq_of_settles {o o' : Outcome} {joiner : Joiner} (h : o.settles joiner = true)
    (h' : o'.settles joiner = true) : o'.value = o.value := by
  cases joiner <;> simp_all [settles]

theorem trace_join_sublist (o next : Outcome) (joiner : Joiner) :
    (o.join joiner next).trace.Sublist (o.trace ++ next.trace) := by
  rw [join]
  split
  · exact List.sublist_append_left _ _
  · split
    · exact List.sublist_append_right _ _
    · exact List.Sublist.refl _

theorem trace_join_ne_nil {o next : Outcome} (h : o.trace ≠ []) (h' : next.trace ≠ [])
    (joiner : Joiner) : (o.join joiner next).trace ≠ [] := by
  rw [join]
  split
  · exact h
  · split
    · exact h'
    · exact List.append_ne_nil_of_left_ne_nil h _

/-- Whether another outcome has the value of this one, if all spells in the trace of this one are
kept. -/
def Forces (kept : Spell → Prop) (o o' : Outcome) : Prop :=
  (∀ s ∈ o.trace, kept s) → o'.value = o.value

variable {kept : Spell → Prop}

/-- **What forces the sides forces the outcome that they are joined to.** -/
theorem Forces.join {o o' next next' : Outcome} (h : Forces kept o o')
    (hnext : Forces kept next next') (joiner : Joiner) :
    Forces kept (o.join joiner next) (o'.join joiner next') := by
  unfold Outcome.join
  intro hkept
  by_cases hs : o.settles joiner = true
  · -- The first side decides alone, so it does so again.
    rw [if_pos hs] at hkept ⊢
    have hvalue := h hkept
    rw [if_pos (settles_congr hvalue joiner ▸ hs), hvalue]
  · rw [if_neg hs] at hkept ⊢
    by_cases hs' : next.settles joiner = true
    · -- The second side decides alone; the first may have changed, but only to what decides, too.
      rw [if_pos hs'] at hkept ⊢
      have hvalue := hnext hkept
      by_cases ho : o'.settles joiner = true
      · rw [if_pos ho, value_eq_of_settles hs' ho]
      · rw [if_neg ho, if_pos (settles_congr hvalue joiner ▸ hs'), hvalue]
    · rw [if_neg hs'] at hkept ⊢
      have hvalue := h fun s hs => hkept s (List.mem_append_left _ hs)
      have hvalue' := hnext fun s hs => hkept s (List.mem_append_right _ hs)
      rw [if_neg (settles_congr hvalue joiner ▸ hs), if_neg (settles_congr hvalue' joiner ▸ hs')]
      exact hvalue

end Outcome

/-- Members are joined one after another; one that is passed over is joined like any other. -/
theorem Group.foldOutcome_cons (value : Spell → Bool) (found : Option Outcome) (link : Joiner)
    (c : Clause) (joiner : Joiner) (rest : List Member) :
    Group.foldOutcome value found link (⟨c, joiner⟩ :: rest) =
      Group.foldOutcome value (some (Outcome.joinTo found link (c.outcome value))) joiner rest := by
  rw [Group.foldOutcome]
  split
  · rename_i h
    rw [Outcome.joinTo_of_settled h]
  · rfl

theorem Group.outcome_of_fold {value : Spell → Bool} {members : List Member} {o : Outcome}
    (h : Group.foldOutcome value none .or members = some o) (negated : Bool) :
    Group.outcome value ⟨negated, members⟩ = o.negateIf negated := by
  rw [Group.outcome, h, Option.getD_some]

/-! ### The trace among the spells -/

mutual

theorem Clause.trace_sublist (value : Spell → Bool) : ∀ c : Clause,
    (c.outcome value).trace.Sublist c.spells
  | .spell s => List.Sublist.refl [s]
  | .group g => Group.trace_sublist value g

/-- The trace of a group is taken from its spells, in order. -/
theorem Group.trace_sublist (value : Spell → Bool) : ∀ g : Group,
    (g.outcome value).trace.Sublist g.spells
  | ⟨negated, members⟩ => by
      have h := Group.foldTrace_sublist value members none .or [] (by simp)
      rw [List.nil_append] at h
      rw [Group.outcome, Group.spells]
      cases hfold : Group.foldOutcome value none .or members with
      | none => exact List.nil_sublist _
      | some o => exact h o hfold

theorem Group.foldTrace_sublist (value : Spell → Bool) : ∀ (members : List Member)
    (found : Option Outcome) (link : Joiner) (before : List Spell),
    (∀ o ∈ found, o.trace.Sublist before) →
    ∀ o ∈ Group.foldOutcome value found link members,
      o.trace.Sublist (before ++ Group.memberSpells members)
  | [], _, _, before, h => by
      rw [Group.foldOutcome, Group.memberSpells, List.append_nil]
      exact h
  | ⟨c, joiner⟩ :: rest, found, link, before, h => by
      rw [Group.foldOutcome_cons, Group.memberSpells, ← List.append_assoc]
      refine Group.foldTrace_sublist value rest _ joiner (before ++ c.spells) ?_
      rintro _ ⟨⟩
      have hc := Clause.trace_sublist value c
      cases found with
      | none => exact hc.trans (List.sublist_append_right _ _)
      | some o => exact (Outcome.trace_join_sublist _ _ _).trans ((h o rfl).append hc)

end

mutual

theorem Clause.trace_ne_nil (value : Spell → Bool) : ∀ c : Clause, c.IsInhabited →
    (c.outcome value).trace ≠ []
  | .spell s, _ => List.cons_ne_nil s []
  | .group g, h => Group.trace_ne_nil value g h

/-- Where every group has members, something decides. -/
theorem Group.trace_ne_nil (value : Spell → Bool) : ∀ g : Group, g.IsInhabited →
    (g.outcome value).trace ≠ []
  | ⟨negated, []⟩, h => absurd rfl h.1
  | ⟨negated, ⟨c, joiner⟩ :: rest⟩, h => by
      obtain ⟨hc, hrest⟩ := h.2
      obtain ⟨o, ho, htrace⟩ := Group.foldTrace_ne_nil value rest (c.outcome value) joiner hrest
        (Clause.trace_ne_nil value c hc)
      rw [Group.outcome_of_fold ((Group.foldOutcome_cons ..).trans ho)]
      exact htrace

theorem Group.foldTrace_ne_nil (value : Spell → Bool) : ∀ (members : List Member) (o : Outcome)
    (link : Joiner), Group.AllInhabited members → o.trace ≠ [] →
    ∃ o', Group.foldOutcome value (some o) link members = some o' ∧ o'.trace ≠ []
  | [], o, _, _, ho => ⟨o, rfl, ho⟩
  | ⟨c, joiner⟩ :: rest, o, link, h, ho => by
      rw [Group.foldOutcome_cons]
      exact Group.foldTrace_ne_nil value rest _ joiner h.2
        (Outcome.trace_join_ne_nil ho (Clause.trace_ne_nil value c h.1) link)

end

/-! ### Two evaluations -/

section Forces

variable (value value' : Spell → Bool)

mutual

theorem Clause.forces_outcome : ∀ c : Clause,
    Outcome.Forces (fun s => value' s = value s) (c.outcome value) (c.outcome value')
  | .spell s => fun h => h s (List.mem_singleton_self s)
  | .group g => Group.forces_outcome g

/-- **The trace of a group forces its value.** -/
theorem Group.forces_outcome : ∀ g : Group,
    Outcome.Forces (fun s => value' s = value s) (g.outcome value) (g.outcome value')
  | ⟨negated, []⟩ => fun _ => rfl
  | ⟨negated, ⟨c, joiner⟩ :: rest⟩ => by
      obtain ⟨o, o', ho, ho', h⟩ := Group.forces_foldOutcome rest (c.outcome value)
        (c.outcome value') joiner (Clause.forces_outcome c)
      rw [Group.outcome_of_fold ((Group.foldOutcome_cons ..).trans ho),
        Group.outcome_of_fold ((Group.foldOutcome_cons ..).trans ho')]
      exact fun hkept => congrArg (· != negated) (h hkept)

theorem Group.forces_foldOutcome : ∀ (members : List Member) (o o' : Outcome) (link : Joiner),
    Outcome.Forces (fun s => value' s = value s) o o' →
    ∃ p p', Group.foldOutcome value (some o) link members = some p ∧
      Group.foldOutcome value' (some o') link members = some p' ∧
      Outcome.Forces (fun s => value' s = value s) p p'
  | [], o, o', _, h => ⟨o, o', rfl, rfl, h⟩
  | ⟨c, joiner⟩ :: rest, o, o', link, h => by
      rw [Group.foldOutcome_cons, Group.foldOutcome_cons]
      exact Group.forces_foldOutcome rest _ _ joiner (h.join (Clause.forces_outcome c) link)

end

end Forces

/-! ### Verdicts -/

/-- A reason is given exactly for a match that something decided. -/
theorem Verdict.isSome_reason? (v : Verdict) :
    v.reason?.isSome = (v.matched && !v.triggered.isEmpty) := by
  rw [reason?]
  cases v.matched <;> cases v.triggered <;> rfl

/-- Every group of a filter that was compiled has members. -/
theorem Document.isInhabited_compile {d : Document} {place : Place} {g : Group}
    (h : (d.compile place).filter = some g) : g.IsInhabited := by
  obtain ⟨raw, -, hraw⟩ := Option.bind_eq_some_iff.1 h
  obtain ⟨c, hc, rfl⟩ := Option.map_eq_some_iff.1 hraw
  exact Canonical.isInhabited_asRoot (Canonical.reduced_reduceGroup _ raw c hc).isInhabited

/-- **The triggered spells of a verdict explain it.** They are spells of the filter, in order. In
every evaluation of the same ruleset in which they come out as they did, the post matches or not as
it did, whatever the post and the answers are otherwise. If every group of the filter has members,
there are some; so a verdict of a ruleset that was compiled has a reason exactly if the post
matches. -/
theorem Ruleset.verdict_explained (r : Ruleset) (settings : Settings) (post : Post)
    (services : Services) :
    let v := (r.verdict settings post).value services
    v.triggered.Sublist r.spells ∧
    (∀ (settings' : Settings) (post' : Post) (services' : Services),
      (∀ s ∈ v.triggered,
        s.truth settings' post' services' = s.truth settings post services) →
      ((r.verdict settings' post').value services').matched = v.matched) ∧
    (∀ g, r.filter = some g → g.IsInhabited → v.triggered ≠ []) ∧
    (∀ source place limits, compileSource source place limits = .ok r →
      v.reason?.isSome = v.matched) := by
  intro v
  have hv : v = _ := r.verdict_value settings post services
  have hne : ∀ g, r.filter = some g → g.IsInhabited → v.triggered ≠ [] := by
    intro g hg hinhabited
    rw [hv, hg]
    exact Group.trace_ne_nil _ g hinhabited
  refine ⟨?_, fun settings' post' services' hkept => ?_, hne, ?_⟩
  · rw [hv, Ruleset.spells]
    cases r.filter with
    | none => exact List.Sublist.refl _
    | some g => exact Group.trace_sublist _ g
  · rw [r.verdict_value settings' post' services']
    rw [hv] at hkept ⊢
    cases hfilter : r.filter with
    | none => rfl
    | some g =>
        rw [hfilter] at hkept
        exact Group.forces_outcome _ _ g hkept
  · intro source place limits hcompile
    obtain ⟨d, -, rfl⟩ := Document.exists_of_compileSource hcompile
    rw [Verdict.isSome_reason?]
    cases hfilter : (d.compile place).filter with
    | none =>
        rw [hv, hfilter]
        rfl
    | some g =>
        have htriggered := hne g hfilter (Document.isInhabited_compile hfilter)
        rw [List.isEmpty_eq_false_iff.2 htriggered, Bool.not_false, Bool.and_true]

/-- The ruleset `!(#sage & #op)` hides a post with the sage mark by `#op` alone, so it hides a post
without either mark as well. -/
theorem Ruleset.verdict_explained_of_negated :
    let c : Clause :=
      .group ⟨true, Group.chainMembers .and [.spell { kind := .sage }, .spell { kind := .op }]⟩
    let r := ({ filter := some (.single c) } : Document).compile {}
    let v := (r.verdict {} { number := 1, sage := true }).value Services.unavailable
    v = ⟨true, [{ kind := .op }]⟩ ∧
    (∀ s ∈ v.triggered, s.truth {} { number := 2 } Services.unavailable =
      s.truth {} { number := 1, sage := true } Services.unavailable) ∧
    ((r.verdict {} { number := 2 }).value Services.unavailable).matched = true ∧
    (∃ g, r.filter = some g ∧ g.IsInhabited ∧ v.triggered ≠ []) ∧
    compileSource "!(#sage & #op)" {} = .ok r ∧ v.reason?.isSome = true := by
  intro c r v
  obtain ⟨-, hforced, hne, hreason⟩ :=
    r.verdict_explained {} { number := 1, sage := true } Services.unavailable
  have hreduced : Canonical.Reduced c :=
    .chain true (Nat.le_refl 2) (List.pairwise_pair.2 rfl)
      (List.forall_mem_cons.2 ⟨⟨rfl, rfl⟩, List.forall_mem_singleton.2 ⟨rfl, rfl⟩⟩)
      (List.forall_mem_cons.2 ⟨.spell _, List.forall_mem_singleton.2 (.spell _)⟩)
  have hreduce : c.reduce (some {}) = some c :=
    Canonical.reduce_eq_self hreduced
      (List.forall_mem_cons.2 ⟨rfl, List.forall_mem_singleton.2 rfl⟩)
  have hfilter : r.filter = some (.single c) := by
    change (Group.single c).canonical? (some {}) = _
    rw [Group.canonical?, Group.single, Group.chain, Canonical.reduce_chain, List.map_singleton,
      hreduce, Canonical.joinChain_singleton .or false hreduced rfl]
    rfl
  have hv : v = ⟨true, [{ kind := .op }]⟩ := by
    rw [show v = _ from r.verdict_value _ _ _, hfilter]
    rfl
  have hkept : ∀ s ∈ v.triggered, s.truth {} { number := 2 } Services.unavailable =
      s.truth {} { number := 1, sage := true } Services.unavailable := by
    rw [hv]
    exact List.forall_mem_singleton.2 rfl
  have hmatched : v.matched = true := by rw [hv]
  have hnil (p : Char → Bool) : Document.MadeOf p [] := Document.madeOf_nil p
  have hspace : Document.MadeOf Document.isAnyBlank [' '] := Document.madeOf_singleton rfl
  have hspells : Document.ChainText (Document.OperandText true (Document.GroupTextWithin 63))
      (Group.chainMembers .and [.spell { kind := .sage }, .spell { kind := .op }])
      (_ ++ ([' '] ++ '&' :: ([' '] ++ _))) :=
    .more (.plain (.spell (.ofKind (by decide)))) hspace hspace
      (.one (.plain (.spell (.ofKind (by decide)))))
  have hgroup : Document.GroupTextWithin 64 ⟨false, _⟩ ('(' :: ([] ++ (_ ++ ([] ++ [')'])))) :=
    .mk (hnil _) hspells (hnil _)
  have hclause : Document.OperandText false (Document.GroupTextWithin 64) c ('!' :: ([] ++ _)) :=
    .negated (hnil _) (.group hgroup)
  have htext : Document.DocumentText 64 _ ([] ++ (_ ++ ([] ++ []))) :=
    .more (hnil _) (.operand hclause) (hnil _) Document.endsLine_nil (.blank (hnil _))
  have hparse : Document.parse "!(#sage & #op)" = .ok { filter := some (.single c) } :=
    Document.parse_eq_ok_iff.2 ⟨by decide +kernel, _, htext, rfl⟩
  have hcompile : compileSource "!(#sage & #op)" {} = .ok r := by
    rw [compileSource, hparse, Except.map]
  have hinhabited := Document.isInhabited_compile hfilter
  exact ⟨hv, hkept, (hforced {} { number := 2 } _ hkept).trans hmatched,
    ⟨_, hfilter, hinhabited, hne _ hfilter hinhabited⟩, hcompile,
    (hreason _ _ _ hcompile).trans hmatched⟩

end PostFilter
