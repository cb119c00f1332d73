import PostFilter.Proofs.Canonical.Value
import PostFilter.Proofs.Verdict.Walk
import PostFilter.Verdict.Polarity

/-!
# Verdicts — what a failed lookup does

A spell that a failed lookup leaves undecided is false, whether it is negated or not. With more
answers it may become true, and no spell becomes false (`Spell.truth_mono`). So a failure never
hides a post through an even spell. Through an odd one it can: the negated group around an undecided
spell comes to true.

`Ruleset.verdict_of_more_answers` says how far a failure can go. A post that is hidden where lookups
fail is still hidden when only the even spells are read with more answers; if it is not hidden with
more answers, then an odd spell was undecided and has become true.
-/

namespace PostFilter

variable {settings : Settings} {post : Post} {fewer more : Services}

/-! ### Spells -/

namespace Spell

variable {α β : Type} {fact : α → PostInquiry (Option β)} {passes : β → Bool}

/-- A lookup that failed before a search is remembered by it. -/
theorem lookupFailed_search (services : Services) : ∀ items : List α,
    ((search fact passes true items).value services).lookupFailed = true
  | [] => rfl
  | item :: rest => by
      rw [search, Inquiry.value_bind]
      match (fact item).value services with
      | none => exact lookupFailed_search services rest
      | some b =>
          dsimp only
          split
          · rfl
          · exact lookupFailed_search services rest

/-- What the value of a spell says about the value that is found with more answers: if it was
decided, it still is, and in the same way. -/
def IsRefinedBy (v w : SpellValue) : Prop :=
  v.isUndecided = false → w.isUndecided = false ∧ w.matched = v.matched

theorem isRefinedBy_refl (v : SpellValue) : IsRefinedBy v v := fun h => ⟨h, rfl⟩

theorem isRefinedBy_match {v : SpellValue} (h : v.isUndecided = false → v.matched = true)
    (failed : Bool) : IsRefinedBy v ⟨true, failed⟩ :=
  fun hv => ⟨Bool.and_false _, (h hv).symm⟩

/-- More answers refine a search, if they leave the facts that were found before as they are. -/
theorem search_refined (h : ∀ item b, (fact item).value fewer = some b →
    (fact item).value more = some b) : ∀ (items : List α) (failed failed' : Bool),
    (failed' = true → failed = true) →
    IsRefinedBy ((search fact passes failed items).value fewer)
      ((search fact passes failed' items).value more)
  | [], failed, failed', hf => by
      intro hv
      refine ⟨?_, rfl⟩
      cases failed' with
      | false => rfl
      | true => rw [hf rfl] at hv; cases hv
  | item :: rest, failed, failed', hf => by
      rw [search, search, Inquiry.value_bind, Inquiry.value_bind]
      match hitem : (fact item).value fewer with
      | some b =>
          rw [h item b hitem]
          dsimp only
          split
          · exact isRefinedBy_match (fun _ => rfl) _
          · exact search_refined h rest failed failed' hf
      | none =>
          -- The failure is remembered, so only a match can still decide.
          have hmatch : ((search fact passes true rest).value fewer).isUndecided = false →
              ((search fact passes true rest).value fewer).matched = true := by
            rw [SpellValue.isUndecided, lookupFailed_search, Bool.true_and]
            exact fun hm => by rwa [Bool.not_eq_false'] at hm
          match (fact item).value more with
          | none => exact search_refined h rest true true id
          | some b =>
              dsimp only
              split
              · exact isRefinedBy_match hmatch _
              · exact search_refined h rest true failed' fun _ => rfl

/-! Three facts are looked up. One that was found before, without asking or with an answer, is found
again with more answers. -/

theorem findSignature_extends (h : more.Extends fewer) (a : Attachment) (hash : UInt64) :
    (Attachment.findSignature a).value fewer = some hash →
      (Attachment.findSignature a).value more = some hash := by
  rw [Attachment.findSignature]
  split
  · exact id
  · exact h.signature a hash

theorem details_extends (h : more.Extends fewer) (get : VideoDetails → β) (v : Video) (b : β)
    (hb : (fewer (.details v)).map get = some b) : (more (.details v)).map get = some b := by
  obtain ⟨d, hd, rfl⟩ := Option.map_eq_some_iff.1 hb
  rw [h.details v d hd, Option.map_some]

theorem findTitle_extends (h : more.Extends fewer) (v : Video) (title : String) :
    (Video.findTitle v).value fewer = some title →
      (Video.findTitle v).value more = some title := by
  rw [Video.findTitle]
  split
  · exact id
  · exact details_extends h VideoDetails.title v title

theorem findAuthor_extends (h : more.Extends fewer) (v : Video) (author : String) :
    (Video.findAuthor v).value fewer = some author →
      (Video.findAuthor v).value more = some author := by
  rw [Video.findAuthor]
  split
  · exact id
  · exact details_extends h VideoDetails.author v author

/-- More answers refine the value of a spell. -/
theorem examine_refined (h : more.Extends fewer) (s : Spell) :
    IsRefinedBy ((s.examine settings post).value fewer) ((s.examine settings post).value more) := by
  by_cases hask : s.kind.mayAsk = true
  · rw [examine, if_pos hask]
    obtain ⟨kind, argument, scope, negated⟩ := s
    cases kind with
    | ihash =>
        cases argument with
        | none => exact isRefinedBy_refl _
        | some a =>
            cases a with
            | signature hash => exact search_refined (findSignature_extends h) _ _ _ id
            | _ => exact isRefinedBy_refl _
    | video =>
        cases argument with
        | none => exact isRefinedBy_refl _
        | some a =>
            cases a with
            | pattern p => exact search_refined (findTitle_extends h) _ _ _ id
            | _ => exact isRefinedBy_refl _
    | vauthor =>
        cases argument with
        | none => exact isRefinedBy_refl _
        | some a =>
            cases a with
            | text text => exact search_refined (findAuthor_extends h) _ _ _ id
            | _ => exact isRefinedBy_refl _
    | _ => cases hask
  · rw [examine, if_neg hask]
    exact isRefinedBy_refl _

/-- Whether a failed lookup leaves the spell undecided. -/
def isUndecided (settings : Settings) (post : Post) (services : Services) (s : Spell) : Bool :=
  ((s.examine settings post).value services).isUndecided

/-- Only the kinds that may ask can be undecided. -/
theorem mayAsk_of_isUndecided {services : Services} {s : Spell}
    (h : s.isUndecided settings post services = true) : s.kind.mayAsk = true := by
  by_contra hask
  rw [isUndecided, examine, if_neg hask] at h
  cases h

/-- A spell that is decided keeps its value with more answers. -/
theorem truth_eq_of_decided (h : more.Extends fewer) {s : Spell}
    (hs : s.isUndecided settings post fewer = false) :
    s.truth settings post more = s.truth settings post fewer := by
  obtain ⟨hd, hm⟩ := examine_refined h s hs
  rw [isUndecided] at hs
  rw [truth, truth, SpellValue.value, SpellValue.value, hd, hm, hs]

/-- **No spell becomes false with more answers.** -/
theorem truth_mono (h : more.Extends fewer) {s : Spell}
    (hs : s.truth settings post fewer = true) : s.truth settings post more = true := by
  have hdecided : s.isUndecided settings post fewer = false := by
    rw [truth, SpellValue.value, Bool.and_eq_true, Bool.not_eq_true'] at hs
    exact hs.1
  rw [truth_eq_of_decided h hdecided, hs]

end Spell

/-! ### Groups -/

mutual

/-- Read with one value for each spell, a clause holds if it evaluates to true. -/
theorem Clause.holdsBy_self (value : Spell → Bool) : ∀ c : Clause,
    c.holdsBy value value = c.isTrue value
  | .spell _ => rfl
  | .group g => Group.holdsBy_self value g

theorem Group.holdsBy_self (value : Spell → Bool) : ∀ g : Group,
    g.holdsBy value value = g.isTrue value
  | ⟨negated, members⟩ => by
      have h := Group.foldHolds_self value members none .or
      rw [Option.map_none] at h
      cases negated <;>
        rw [Group.holdsBy, Group.isTrue, Group.outcome, h] <;>
        cases Group.foldOutcome value none .or members <;> simp [Outcome.negateIf, Outcome.nothing]

theorem Group.foldHolds_self (value : Spell → Bool) : ∀ (members : List Member)
    (found : Option Outcome) (link : Joiner),
    Group.foldHolds value value (found.map Outcome.value) link members =
      (Group.foldOutcome value found link members).map Outcome.value
  | [], _, _ => rfl
  | ⟨c, joiner⟩ :: rest, found, link => by
      have hc : c.holdsBy value value = (c.outcome value).value := Clause.holdsBy_self value c
      rw [Group.foldHolds, Group.foldOutcome, hc]
      split
      · rename_i hsettled
        obtain ⟨o, rfl, ho⟩ := (Option.any_eq_true _ _).1 hsettled
        rw [Option.map_some, Canonical.applyPresent_settled ho, ← Option.map_some]
        exact Group.foldHolds_self value rest (some o) joiner
      · rw [← Canonical.value_joinTo, ← Option.map_some]
        exact Group.foldHolds_self value rest _ joiner

end

/-- Whether one value, if any, is true only if the other is, both or neither being there. -/
def Implies : Option Bool → Option Bool → Prop
  | none, none => True
  | some a, some b => a = true → b = true
  | _, _ => False

theorem Implies.applyPresent {a b a' b' : Option Bool} (joiner : Joiner) (h : Implies a b)
    (h' : Implies a' b') : Implies (joiner.applyPresent a a') (joiner.applyPresent b b') := by
  match a, b, a', b', h, h' with
  | none, none, none, none, _, _ => trivial
  | none, none, some _, some _, _, h' => exact h'
  | some _, some _, none, none, h, _ => exact h
  | some x, some y, some x', some y', h, h' =>
      cases joiner with
      | and =>
          intro hx
          obtain ⟨hx, hx'⟩ := (Bool.and_eq_true _ _).mp hx
          exact (Bool.and_eq_true _ _).mpr ⟨h hx, h' hx'⟩
      | or =>
          intro hx
          rcases (Bool.or_eq_true _ _).mp hx with hx | hx
          · exact (Bool.or_eq_true _ _).mpr (Or.inl (h hx))
          · exact (Bool.or_eq_true _ _).mpr (Or.inr (h' hx))

theorem Implies.getD {a b : Option Bool} (h : Implies a b) :
    a.getD false = true → b.getD false = true := by
  match a, b, h with
  | none, none, _ => exact id
  | some _, some _, h => exact h

mutual

/-- A clause goes on to hold when even spells become true and odd ones false. -/
theorem Clause.holdsBy_mono : ∀ (c : Clause) {even odd even' odd' : Spell → Bool},
    (∀ s ∈ c.spellsOf false, even s = true → even' s = true) →
    (∀ s ∈ c.spellsOf true, odd' s = true → odd s = true) →
    c.holdsBy even odd = true → c.holdsBy even' odd' = true
  | .spell s, _, _, _, _, he, _, h => he s (List.mem_singleton_self s) h
  | .group g, _, _, _, _, he, ho, h => Group.holdsBy_mono g he ho h

theorem Group.holdsBy_mono : ∀ (g : Group) {even odd even' odd' : Spell → Bool},
    (∀ s ∈ g.spellsOf false, even s = true → even' s = true) →
    (∀ s ∈ g.spellsOf true, odd' s = true → odd s = true) →
    g.holdsBy even odd = true → g.holdsBy even' odd' = true
  | ⟨false, members⟩, _, _, _, _, he, ho, h =>
      (Group.foldHolds_mono members he ho none none .or trivial).getD h
  | ⟨true, members⟩, even, odd, even', odd', he, ho, h => by
      -- Inside a negated group, even and odd change places, and so do the two readings.
      have hm : (Group.foldHolds odd' even' none .or members).getD false = true →
          (Group.foldHolds odd even none .or members).getD false = true :=
        (Group.foldHolds_mono members ho he none none .or trivial).getD
      rw [Group.holdsBy, Bool.not_eq_true'] at h ⊢
      by_contra hne
      rw [hm (eq_true_of_ne_false hne)] at h
      cases h

theorem Group.foldHolds_mono : ∀ (members : List Member) {even odd even' odd' : Spell → Bool},
    (∀ s ∈ Group.memberSpellsOf false members, even s = true → even' s = true) →
    (∀ s ∈ Group.memberSpellsOf true members, odd' s = true → odd s = true) →
    ∀ (found found' : Option Bool) (link : Joiner), Implies found found' →
    Implies (Group.foldHolds even odd found link members)
      (Group.foldHolds even' odd' found' link members)
  | [], _, _, _, _, _, _, _, _, _, h => h
  | ⟨c, joiner⟩ :: rest, _, _, _, _, he, ho, found, found', link, h => by
      rw [Group.memberSpellsOf, List.forall_mem_append] at he ho
      exact Group.foldHolds_mono rest he.2 ho.2 _ _ joiner
        (h.applyPresent link (Clause.holdsBy_mono c he.1 ho.1))

end

/-! ### Verdicts -/

/-- Whether the filter hides a post when its even and its odd spells are looked up in two tables of
answers. -/
def Ruleset.hidesBy (r : Ruleset) (settings : Settings) (post : Post) (even odd : Services) :
    Bool :=
  r.filter.any fun g =>
    g.holdsBy (Spell.truth settings post even) (Spell.truth settings post odd)

theorem Ruleset.matched_eq_hidesBy (r : Ruleset) (settings : Settings) (post : Post)
    (services : Services) :
    ((r.verdict settings post).value services).matched =
      r.hidesBy settings post services services := by
  rw [Ruleset.verdict_value, Ruleset.hidesBy]
  cases r.filter with
  | none => rfl
  | some g => exact (Group.holdsBy_self _ g).symm

/-- **What a failed lookup can do.** A post that is hidden with fewer answers is still hidden when
the even spells are looked up with more. So it stays hidden with more answers exactly unless the odd
spells tip it; and if they do, then one of them asks, was undecided and has become true. -/
theorem Ruleset.verdict_of_more_answers (r : Ruleset) (settings : Settings) (post : Post)
    {fewer more : Services} (h : more.Extends fewer) :
    (((r.verdict settings post).value fewer).matched = true →
      r.hidesBy settings post more fewer = true) ∧
    ((((r.verdict settings post).value fewer).matched = true →
        ((r.verdict settings post).value more).matched = true) ↔
      (((r.verdict settings post).value fewer).matched = true →
        r.hidesBy settings post more more = r.hidesBy settings post more fewer)) ∧
    (((r.verdict settings post).value fewer).matched = true →
      ((r.verdict settings post).value more).matched = false →
      ∃ g, r.filter = some g ∧ ∃ s ∈ g.spellsOf true, s.kind.mayAsk = true ∧
        s.isUndecided settings post fewer = true ∧ s.truth settings post more = true) := by
  have heven : r.hidesBy settings post fewer fewer = true →
      r.hidesBy settings post more fewer = true := by
    intro hf
    obtain ⟨g, hg, hf⟩ := (Option.any_eq_true _ _).1 hf
    refine (Option.any_eq_true _ _).2 ⟨g, hg, ?_⟩
    exact Group.holdsBy_mono g (fun s _ hs => Spell.truth_mono h hs) (fun s _ hs => hs) hf
  rw [r.matched_eq_hidesBy, r.matched_eq_hidesBy]
  -- The even spells never tip the result, so the odd ones alone can.
  refine ⟨heven, ⟨fun hmore hf => ?_, fun htip hf => ?_⟩, fun hf hmore => ?_⟩
  · rw [hmore hf, heven hf]
  · rw [htip hf, heven hf]
  · obtain ⟨g, hg, hg'⟩ := (Option.any_eq_true _ _).1 (heven hf)
    refine ⟨g, hg, ?_⟩
    by_contra hnone
    -- Without such a spell the odd spells are read alike, and the post would stay hidden.
    have hodd : ∀ s ∈ g.spellsOf true, s.truth settings post more = true →
        s.truth settings post fewer = true := by
      intro s hs htrue
      match hu : s.isUndecided settings post fewer with
      | false => rw [← Spell.truth_eq_of_decided h hu, htrue]
      | true => exact absurd ⟨s, hs, Spell.mayAsk_of_isUndecided hu, hu, htrue⟩ hnone
    have hstay : r.hidesBy settings post more more = true :=
      (Option.any_eq_true _ _).2 ⟨g, hg, Group.holdsBy_mono g (fun s _ hs => hs) hodd hg'⟩
    rw [hstay] at hmore
    cases hmore

/-- The answers of a host that knows one author for every video. -/
def Services.ofAuthor (author : String) : Services
  | .signature _ => none
  | .details _ => some { title := "", author := author }

/-- The ruleset `!(#op & #vauthor(x))` shows an opening post with a video by `x`. When the video
cannot be looked up, the ruleset hides the post. -/
theorem Ruleset.hidden_by_failure :
    let r : Ruleset := ⟨0, some (.single (.group ⟨true, Group.chainMembers .and
      [.spell { kind := .op }, .spell { kind := .vauthor, argument := some (.text "x") }]⟩)),
      [], [], {}⟩
    let post : Post := { number := 1, isOpening := true, videos := [{ host := "h", id := "v" }] }
    Services.Extends (Services.ofAuthor "x") Services.unavailable ∧
    ((r.verdict {} post).value Services.unavailable).matched = true ∧
    ((r.verdict {} post).value (Services.ofAuthor "x")).matched = false ∧
    ∃ g, r.filter = some g ∧ ∃ s ∈ g.spellsOf true, s.kind.mayAsk = true ∧
      s.isUndecided {} post Services.unavailable = true ∧
      s.truth {} post (Services.ofAuthor "x") = true := by
  intro r post
  have h : Services.Extends (Services.ofAuthor "x") Services.unavailable :=
    ⟨fun _ _ hs => (by cases hs), fun _ _ hd => (by cases hd)⟩
  have hfewer : ((r.verdict {} post).value Services.unavailable).matched = true := by
    rw [r.matched_eq_hidesBy]
    decide
  have hmore : ((r.verdict {} post).value (Services.ofAuthor "x")).matched = false := by
    rw [r.matched_eq_hidesBy]
    decide
  exact ⟨h, hfewer, hmore, (r.verdict_of_more_answers {} post h).2.2 hfewer hmore⟩

end PostFilter
