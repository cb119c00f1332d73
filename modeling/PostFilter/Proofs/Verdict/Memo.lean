import Mathlib.Data.List.Induction
import PostFilter.Proofs.Verdict.Walk
import PostFilter.Verdict.MemoRun

/-!
# Verdicts — a memo changes no verdict

A memo holds what it should (`VerdictMemo.Holds`) if it is owned by the ruleset that it is bound to,
each of its entries is the verdict of that ruleset on the post that is known by the number, no
lookup having failed on the way, and it has no more entries than it may. Every step keeps that
(`VerdictMemo.Holds.step`), as long as a ruleset that the memo takes for the one it is bound to has
the same filter, and a post that is judged is the one that is known.

So it holds after every run (`VerdictMemo.holds_after`), and a post is judged by way of the memo as
it is without (`VerdictMemo.after_transparent`).
-/

namespace PostFilter

/-- What a ruleset says of a post rests on its filter alone. -/
theorem Ruleset.judge_congr {r r' : Ruleset} (h : r.filter = r'.filter) (settings : Settings)
    (post : Post) : r.judge settings post = r'.judge settings post := by
  rw [judge, judge, h]

namespace VerdictMemo

variable {settings : Settings} {services : Services} {limit : Nat} {m : VerdictMemo}
  {bound : Option Ruleset} {known : UInt64 → Option Post}

/-- Whether a memo that may have `limit` entries, is bound to a ruleset, if to any, and knows posts
by their numbers, holds what it should. -/
structure Holds (settings : Settings) (services : Services) (limit : Nat)
    (bound : Option Ruleset) (known : UInt64 → Option Post) (m : VerdictMemo) : Prop where
  owner : m.owner = bound.map fun r => (r.fingerprint, r.place)
  entries : ∀ number v, m.entries[number]? = some v → ∃ r post, bound = some r ∧
    known number = some post ∧ (r.judge settings post).value services = (v, false)
  size : m.size ≤ m.capacity
  capacity : m.capacity = max 1 limit

/-! ### Binding -/

theorem isOwnedBy_iff (r : Ruleset) :
    m.isOwnedBy r = true ↔ m.owner = some (r.fingerprint, r.place) := by
  rw [isOwnedBy]
  cases m.owner with
  | none => simp
  | some owner =>
      obtain ⟨fingerprint, place⟩ := owner
      simp only [Option.any_some, Ruleset.isCurrent, Bool.and_eq_true, beq_iff_eq,
        Option.some.injEq, Prod.mk.injEq]
      exact and_congr eq_comm eq_comm

/-- A memo that is bound to another ruleset forgets its entries; if it takes the ruleset for the one
it is bound to, the entries are right for both. -/
theorem Holds.bind (h : m.Holds settings services limit bound known) {r : Ruleset}
    (hr : ∀ r' ∈ bound, r'.fingerprint = r.fingerprint → r'.place = r.place →
      r'.filter = r.filter) : (m.bind r).2.Holds settings services limit (some r) known := by
  rw [VerdictMemo.bind]
  split
  · rename_i howned
    rw [isOwnedBy_iff, h.owner, Option.map_eq_some_iff] at howned
    obtain ⟨r', hbound, hsame⟩ := howned
    obtain ⟨hfingerprint, hplace⟩ := Prod.mk.injEq .. ▸ hsame
    have hfilter := hr r' hbound hfingerprint hplace
    refine ⟨?_, fun number v hv => ?_, h.size, h.capacity⟩
    · rw [h.owner, hbound]
      exact congrArg some hsame
    · obtain ⟨r'', post, hr'', hpost, hjudge⟩ := h.entries number v hv
      cases hbound.symm.trans hr''
      exact ⟨r, post, rfl, hpost, Ruleset.judge_congr hfilter .. ▸ hjudge⟩
  · refine ⟨rfl, fun number v hv => ?_, Nat.zero_le _, h.capacity⟩
    rw [Std.HashMap.getElem?_empty] at hv
    cases hv

theorem Holds.get (h : m.Holds settings services limit bound known) (number : UInt64) :
    (m.get number).2.Holds settings services limit bound known := by
  rw [VerdictMemo.get]
  split <;> exact ⟨h.owner, h.entries, h.size, h.capacity⟩

theorem Holds.remembered (h : m.Holds settings services limit bound known) {r : Ruleset}
    (hr : ∀ r' ∈ bound, r'.fingerprint = r.fingerprint → r'.place = r.place →
      r'.filter = r.filter) (post : Post) :
    (m.remembered r post).2.Holds settings services limit (some r) known := (h.bind hr).get _

/-! ### Keeping and forgetting -/

theorem entries_get (m : VerdictMemo) (number : UInt64) :
    (m.get number).1 = m.entries[number]? ∧ (m.get number).2.entries = m.entries := by
  rw [VerdictMemo.get]
  split <;> simp_all

theorem size_insert_le (hsize : m.size ≤ m.capacity) (hcapacity : 1 ≤ m.capacity)
    (number : UInt64) (v : Verdict) : (m.insert number v).size ≤ (m.insert number v).capacity := by
  rw [insert]
  split
  · change ((∅ : Std.HashMap UInt64 Verdict).insert number v).size ≤ m.capacity
    rw [Std.HashMap.size_insert, if_neg Std.HashMap.not_mem_empty]
    exact hcapacity
  · rename_i hroom
    change (m.entries.insert number v).size ≤ m.capacity
    rw [Std.HashMap.size_insert]
    split
    · exact hsize
    · rename_i hnew
      have hlt : m.entries.size < m.capacity := by simpa [hnew] using hroom
      exact hlt

/-- An entry of a memo into which a verdict was put is that verdict, or was there before. -/
theorem entries_insert {number number' : UInt64} {v v' : Verdict}
    (h : (m.insert number v).entries[number']? = some v') :
    (number = number' ∧ v = v') ∨ (number ≠ number' ∧ m.entries[number']? = some v') := by
  rw [insert] at h
  split at h <;> dsimp only at h <;> rw [Std.HashMap.getElem?_insert] at h <;> split at h
  · exact Or.inl ⟨eq_of_beq ‹_›, Option.some.inj h⟩
  · rw [Std.HashMap.getElem?_empty] at h
    cases h
  · exact Or.inl ⟨eq_of_beq ‹_›, Option.some.inj h⟩
  · rename_i hne
    exact Or.inr ⟨fun heq => hne (beq_iff_eq.2 heq), h⟩

theorem Holds.insert {r : Ruleset} (h : m.Holds settings services limit (some r) known)
    {post : Post} {v : Verdict} (hv : (r.judge settings post).value services = (v, false)) :
    (m.insert post.number v).Holds settings services limit (some r)
      fun number => if post.number = number then some post else known number := by
  refine ⟨?_, fun number v' hv' => ?_, size_insert_le h.size ?_ _ _, ?_⟩
  · rw [VerdictMemo.insert]
    split <;> exact h.owner
  · rcases entries_insert hv' with ⟨rfl, rfl⟩ | ⟨hne, hold⟩
    · exact ⟨r, post, rfl, if_pos rfl, hv⟩
    · obtain ⟨r', post', hr', hpost', hjudge⟩ := h.entries number v' hold
      exact ⟨r', post', hr', (if_neg hne).trans hpost', hjudge⟩
  · rw [h.capacity]
    exact Nat.le_max_left _ _
  · rw [VerdictMemo.insert]
    split <;> exact h.capacity

theorem Holds.invalidate (h : m.Holds settings services limit bound known) (number : UInt64) :
    (m.invalidate number).2.Holds settings services limit bound
      fun n => if number = n then none else known n := by
  refine ⟨h.owner, fun n v hv => ?_, Nat.le_trans Std.HashMap.size_erase_le h.size, h.capacity⟩
  change (m.entries.erase number)[n]? = some v at hv
  rw [Std.HashMap.getElem?_erase] at hv
  split at hv
  · cases hv
  · rename_i hne
    obtain ⟨r, post, hr, hpost, hjudge⟩ := h.entries n v hv
    exact ⟨r, post, hr, (if_neg fun heq => hne (beq_iff_eq.2 heq)).trans hpost, hjudge⟩

/-- A memo without entries holds what it should. -/
theorem holds_ofCapacity {capacity : Nat} (h : max 1 capacity = max 1 limit) :
    (ofCapacity capacity).Holds settings services limit none known := by
  refine ⟨rfl, fun number v hv => ?_, Nat.zero_le _, h⟩
  change (∅ : Std.HashMap UInt64 Verdict)[number]? = some v at hv
  rw [Std.HashMap.getElem?_empty] at hv
  cases hv

/-! ### Judging -/

/-- More posts may be known. -/
theorem Holds.mono (h : m.Holds settings services limit bound known) {known' : UInt64 → Option Post}
    (hknown : ∀ number post, known number = some post → known' number = some post) :
    m.Holds settings services limit bound known' := by
  refine ⟨h.owner, fun number v hv => ?_, h.size, h.capacity⟩
  obtain ⟨r, post, hr, hpost, hjudge⟩ := h.entries number v hv
  exact ⟨r, post, hr, hknown number post hpost, hjudge⟩

/-- The memo answers with what the ruleset says of the known post. -/
theorem Holds.answer {r : Ruleset} (h : m.Holds settings services limit (some r) known)
    {post : Post} (hpost : ∀ p ∈ known post.number, p = post) {v : Verdict}
    (hv : m.entries[post.number]? = some v) :
    (r.judge settings post).value services = (v, false) := by
  obtain ⟨r', post', hr', hpost', hjudge⟩ := h.entries _ v hv
  cases hr'
  rwa [hpost post' hpost'] at hjudge

/-- A decision by way of a memo, with every lookup answered. -/
theorem value_judge (m : VerdictMemo) (r : Ruleset) (post : Post) :
    (m.judge r settings post).value services =
      match (m.remembered r post).1 with
      | some v => (v, (m.remembered r post).2)
      | none =>
        let found := (r.judge settings post).value services
        (found.1, (m.remembered r post).2.keep post found.1 found.2) := by
  rw [judge]
  obtain ⟨answer, m'⟩ := m.remembered r post
  cases answer with
  | some v => rfl
  | none => rw [Inquiry.value_bind]; rfl

/-- A verdict that was found while a lookup failed is not kept. -/
theorem judge_of_degraded {r : Ruleset} {post : Post}
    (h : ((r.judge settings post).value services).2 = true) (m : VerdictMemo) :
    ((m.judge r settings post).value services).2 = (m.remembered r post).2 := by
  rw [value_judge]
  split
  · rfl
  · exact if_pos h

/-- **A post is judged by way of a memo as it is without**; and what the memo becomes holds what it
should. -/
theorem Holds.judge (h : m.Holds settings services limit bound known) {r : Ruleset} {post : Post}
    (hr : ∀ r' ∈ bound, r'.fingerprint = r.fingerprint → r'.place = r.place →
      r'.filter = r.filter) (hpost : ∀ p ∈ known post.number, p = post) :
    ((m.judge r settings post).value services).1 = (r.verdict settings post).value services ∧
      ((m.judge r settings post).value services).2.Holds settings services limit (some r)
        fun number => if post.number = number then some post else known number := by
  have hasked := h.remembered hr post
  have hverdict : (r.verdict settings post).value services =
      ((r.judge settings post).value services).1 := Inquiry.value_bind ..
  have hknown : ∀ number p, known number = some p →
      (if post.number = number then some post else known number) = some p := by
    intro number p hp
    split
    · rename_i heq
      rw [hpost p (heq ▸ hp)]
    · exact hp
  have hentry := (entries_get (m.bind r).2 post.number).1
  have hentries := (entries_get (m.bind r).2 post.number).2
  rw [value_judge, hverdict]
  cases hanswer : (m.remembered r post).1 with
  | some v =>
      -- The memo answers, and is left as it is.
      rw [← VerdictMemo.remembered, hanswer, ← hentries, ← VerdictMemo.remembered] at hentry
      exact ⟨congrArg Prod.fst (hasked.answer hpost hentry.symm).symm, hasked.mono hknown⟩
  | none =>
      refine ⟨rfl, ?_⟩
      dsimp only [keep]
      split
      · exact hasked.mono hknown
      · rename_i hdegraded
        exact hasked.insert (Prod.ext rfl (Bool.not_eq_true _ ▸ hdegraded))

/-! ### Runs -/

/-- **A step keeps what a memo holds.** -/
theorem Holds.step (h : m.Holds settings services limit bound known) (step : MemoStep)
    (hr : ∀ r ∈ step.ruleset?, ∀ r' ∈ bound, r'.fingerprint = r.fingerprint →
      r'.place = r.place → r'.filter = r.filter)
    (hpost : ∀ r post, step = .judge r post → ∀ p ∈ known post.number, p = post) :
    (step.apply settings services m).Holds settings services limit (step.boundBy bound)
      fun number => step.knownBy number (known number) := by
  cases step with
  | judge r post => exact (h.judge (hr r rfl) (hpost r post rfl)).2
  | giveUp r post => exact h.remembered (hr r rfl) post
  | bind r => exact h.bind (hr r rfl)
  | invalidate number => exact h.invalidate number
  | clear => exact holds_ofCapacity (by rw [h.capacity, ← Nat.max_assoc, Nat.max_self])

end VerdictMemo

namespace MemoStep

variable {steps later : List MemoStep}

theorem FiltersAgree.of_append (h : FiltersAgree (steps ++ later)) : FiltersAgree steps := by
  rw [FiltersAgree, List.filterMap_append] at h
  exact fun r hr r' hr' => h r (List.mem_append_left _ hr) r' (List.mem_append_left _ hr')

theorem PostsStay.of_append (h : PostsStay (steps ++ later)) : PostsStay steps := by
  rintro before r post rest rfl
  exact h before r post (rest ++ later) (List.append_assoc ..)

/-- The ruleset that a memo is that of is one of a step. -/
theorem mem_of_boundAfter {r : Ruleset} (h : boundAfter steps = some r) :
    r ∈ steps.filterMap ruleset? := by
  induction steps using List.reverseRecOn with
  | nil => cases h
  | append_singleton steps step ih =>
      rw [boundAfter, List.foldl_append] at h
      rw [List.filterMap_append, List.mem_append]
      cases step with
      | judge r' _ | giveUp r' _ | bind r' =>
          cases h
          exact Or.inr (List.mem_singleton_self _)
      | invalidate _ => exact Or.inl (ih h)
      | clear => cases h

/-- The next ruleset has the filter of the one that a memo is that of, if the memo takes them for
the same. -/
theorem FiltersAgree.next {step : MemoStep} (h : FiltersAgree (steps ++ step :: later)) :
    ∀ r ∈ step.ruleset?, ∀ r' ∈ boundAfter steps, r'.fingerprint = r.fingerprint →
      r'.place = r.place → r'.filter = r.filter := by
  intro r hr r' hr'
  refine h r' ?_ r ?_ <;> rw [List.filterMap_append, List.mem_append]
  · exact Or.inl (mem_of_boundAfter hr')
  · exact Or.inr (List.mem_filterMap.2 ⟨step, List.mem_cons_self, hr⟩)

end MemoStep

namespace VerdictMemo
open MemoStep

/-- **After every run, a memo holds what it should.** -/
theorem holds_after (settings : Settings) (services : Services) (capacity : Nat)
    {steps : List MemoStep} (hfilters : FiltersAgree steps) (hposts : PostsStay steps) :
    (after settings services capacity steps).Holds settings services capacity (boundAfter steps)
      (knownAfter steps) := by
  induction steps using List.reverseRecOn with
  | nil => exact holds_ofCapacity rfl
  | append_singleton steps step ih =>
      have hknown : knownAfter (steps ++ [step]) =
          fun number => step.knownBy number (knownAfter steps number) := by
        funext number
        rw [knownAfter, List.foldl_append]
        rfl
      rw [after, boundAfter, hknown, List.foldl_append, List.foldl_append]
      exact (ih hfilters.of_append hposts.of_append).step step hfilters.next
        fun r post heq => hposts steps r post [] (by rw [heq])

/-- **A memo is transparent.** At every moment of a run, each of its entries is the verdict of the
ruleset it is bound to on the post that is known by the number, and no lookup failed on the way; it
has no more entries than it may. A post that is judged next gets the verdict that it gets without
the memo; if a lookup fails on the way to it, nothing is kept. -/
theorem after_transparent (settings : Settings) (services : Services) (capacity : Nat)
    {steps : List MemoStep} (hfilters : FiltersAgree steps) (hposts : PostsStay steps)
    {before rest : List MemoStep} (hsteps : steps = before ++ rest) :
    let m := after settings services capacity before
    (∀ number v, m.entries[number]? = some v → ∃ r post,
      boundAfter before = some r ∧ m.owner = some (r.fingerprint, r.place) ∧
      knownAfter before number = some post ∧
      (r.judge settings post).value services = (v, false)) ∧
    m.size ≤ max 1 capacity ∧
    ∀ r post later, rest = .judge r post :: later →
      ((m.judge r settings post).value services).1 = (r.verdict settings post).value services ∧
      (((r.judge settings post).value services).2 = true →
        ((m.judge r settings post).value services).2 = (m.remembered r post).2) := by
  subst hsteps
  intro m
  have h := holds_after settings services capacity hfilters.of_append hposts.of_append
  refine ⟨fun number v hv => ?_, h.capacity ▸ h.size, ?_⟩
  · obtain ⟨r, post, hr, hpost, hjudge⟩ := h.entries number v hv
    exact ⟨r, post, hr, by rw [h.owner, hr]; rfl, hpost, hjudge⟩
  · rintro r post later rfl
    exact ⟨(h.judge (hfilters.next r rfl) (hposts before r post later rfl)).1,
      fun hdegraded => judge_of_degraded hdegraded m⟩

/-- A post is judged, edited and judged again; then a ruleset is asked of which a lookup fails. -/
theorem after_transparent_of_edit :
    let sage : Ruleset := ⟨1, some (.single (.spell { kind := .sage })), [], [], {}⟩
    let video : Ruleset :=
      ⟨2, some (.single (.spell { kind := .vauthor, argument := some (.text "x") })), [], [], {}⟩
    let post : Post := { number := 7, sage := true }
    let edited : Post := { number := 7, videos := [{ host := "h", id := "v" }] }
    let before : List MemoStep := [.judge sage post, .invalidate 7, .judge sage edited]
    let steps : List MemoStep := before ++ [.judge video edited]
    let m := after {} Services.unavailable 1 before
    FiltersAgree steps ∧ PostsStay steps ∧
      m.size ≤ 1 ∧
      ((m.judge video {} edited).value Services.unavailable).1 =
        (video.verdict {} edited).value Services.unavailable ∧
      ((video.judge {} edited).value Services.unavailable).2 = true ∧
      ((m.judge video {} edited).value Services.unavailable).2 = (m.remembered video edited).2 := by
  intro sage video post edited before steps m
  have hfilters : FiltersAgree steps := by
    have hrulesets : steps.filterMap ruleset? = [sage, sage, video] := rfl
    rw [FiltersAgree, hrulesets]
    simp [sage, video]
  have hposts : PostsStay steps := by
    change PostsStay [.judge sage post, .invalidate 7, .judge sage edited, .judge video edited]
    rintro (_ | ⟨_, _ | ⟨_, _ | ⟨_, _ | ⟨_, before⟩⟩⟩⟩) r p rest h known hknown
    · cases hknown
    · cases h
    · cases h
      cases hknown
    · cases h
      cases hknown
      rfl
    · cases before <;> cases h
  have hdegraded : ((video.judge {} edited).value Services.unavailable).2 = true := by
    simp only [Ruleset.judge, video, Group.walk_eq_decide]
    rfl
  obtain ⟨-, hsize, hjudge⟩ :=
    after_transparent {} Services.unavailable 1 hfilters hposts
      (rfl : steps = before ++ [.judge video edited])
  obtain ⟨hverdict, hkept⟩ := hjudge video edited [] rfl
  exact ⟨hfilters, hposts, hsize, hverdict, hdegraded, hkept hdegraded⟩

end VerdictMemo

end PostFilter
