import Mathlib.Data.List.Perm.Basic
import PostFilter.Proofs.Verdict.Account

/-!
# Verdicts — the order of attachments and videos

A search stops at its first hit, so the order of the attachments and videos decides which lookups a
spell takes and whether one of them fails. It does not decide what the spell counts as. A hit counts
wherever it stands; and where there is none, every probe is made, so that the spell is undecided
exactly if some probe fails (`Spell.countsAs_eq`). Neither says anything of the order.

`Ruleset.verdict_reordered` says this of verdicts.
-/

namespace PostFilter

variable {settings : Settings} {post : Post} {services : Services}

namespace Spell

/-! ### Without an order -/

/-- Where there is no hit, every probe is made. -/
theorem made_of_no_hit : ∀ {probes : List Probe},
    (probes.any fun p => p.hit == some true) = false → Probe.made probes = probes
  | [], _ => rfl
  | p :: rest, h => by
      rw [List.any_cons, Bool.or_eq_false_iff] at h
      rw [Probe.made, if_neg (by rw [h.1]; exact Bool.false_ne_true), made_of_no_hit h.2]

/-- A spell that does not match has no hit. -/
theorem no_hit_of_not_matchesPost {s : Spell}
    (h : s.matchesPost settings post services = false) :
    ((s.probes settings post services).any fun p => p.hit == some true) = false := by
  rw [matchesPost] at h
  split at h
  · exact (Bool.or_eq_false_iff.1 h).2
  · rename_i hask
    rw [probes_of_not_mayAsk hask, List.any_nil]

/-- What a spell counts as, told of its probes in any order. -/
theorem countsAs_eq (s : Spell) : s.countsAs settings post services =
    if s.matchesPost settings post services then !s.negated
    else !((s.probes settings post services).any fun p => p.hit.isNone) && s.negated := by
  rw [countsAs, hasFailure]
  cases h : s.matchesPost settings post services with
  | true => rw [Bool.not_true, Bool.and_false, if_neg Bool.false_ne_true, if_pos rfl, Bool.true_bne]
  | false =>
      rw [made_of_no_hit (no_hit_of_not_matchesPost h), Bool.not_false, Bool.and_true,
        if_neg Bool.false_ne_true, Bool.false_bne]
      cases (s.probes settings post services).any fun p => p.hit.isNone <;> rfl

/-- A spell counts as it does in the plain evaluation of a filter. -/
theorem truth_eq_countsAs (s : Spell) :
    s.truth settings post services = s.countsAs settings post services := by
  rw [truth, Inquiry.value, run_examine, value_eq_countsAs]

/-! ### Another order -/

section Reordered

variable {attachments : List Attachment} {videos : List Video}
  (ha : attachments.Perm post.attachments) (hv : videos.Perm post.videos)
include ha hv

omit hv in
theorem holds_reordered (s : Spell) :
    s.holds settings { post with attachments := attachments, videos := videos } =
      s.holds settings post := by
  simp only [holds, ha.any_eq, ha.isEmpty_eq]
  rfl

theorem probes_reordered (s : Spell) :
    (s.probes settings { post with attachments := attachments, videos := videos } services).Perm
      (s.probes settings post services) := by
  rw [probes, probes]
  split
  · exact ha.map _
  · exact hv.map _
  · exact hv.map _
  · exact .refl _

theorem matchesPost_reordered (s : Spell) :
    s.matchesPost settings { post with attachments := attachments, videos := videos } services =
      s.matchesPost settings post services := by
  rw [matchesPost, matchesPost, (probes_reordered ha hv s).any_eq, holds_reordered ha]
  dsimp only
  rw [hv.isEmpty_eq]

/-- **A spell counts the same in every order.** -/
theorem countsAs_reordered (s : Spell) :
    s.countsAs settings { post with attachments := attachments, videos := videos } services =
      s.countsAs settings post services := by
  rw [countsAs_eq, countsAs_eq, matchesPost_reordered ha hv, (probes_reordered ha hv s).any_eq]

end Reordered

end Spell

/-! ### Verdicts -/

/-- **Verdicts do not depend on the order of attachments and videos**, where a lookup is answered by
what it asks for. -/
theorem Ruleset.verdict_reordered (r : Ruleset) (settings : Settings) (post : Post)
    (services : Services) {attachments : List Attachment} {videos : List Video}
    (ha : attachments.Perm post.attachments) (hv : videos.Perm post.videos) :
    (r.verdict settings { post with attachments := attachments, videos := videos }).value services =
      (r.verdict settings post).value services := by
  have htruth : Spell.truth settings { post with attachments := attachments, videos := videos }
      services = Spell.truth settings post services := by
    funext s
    rw [Spell.truth_eq_countsAs, Spell.truth_eq_countsAs, Spell.countsAs_reordered ha hv]
  rw [Ruleset.verdict_value, Ruleset.verdict_value, htruth]

/-- `#vauthor(x)` hides a post with a video of that author and one whose host does not answer. Only
in the order in which the latter comes first is the host asked, and the decision degraded. -/
theorem Ruleset.verdict_reordered_of_hit :
    let known : Video := { host := "h", id := "1", author := some "x" }
    let missing : Video := { host := "h", id := "2" }
    let s : Spell := { kind := .vauthor, argument := some (.text "x") }
    let r : Ruleset := ⟨0, some (.single (.spell s)), [], [], {}⟩
    let post : Post := { number := 1, videos := [missing, known] }
    let reordered : Post := { post with attachments := [], videos := [known, missing] }
    [known, missing].Perm post.videos ∧
    (r.verdict {} reordered).value Services.unavailable =
      (r.verdict {} post).value Services.unavailable ∧
    (r.judge {} post).run Services.unavailable = ((⟨true, [s]⟩, true), [.details missing]) ∧
    (r.judge {} reordered).run Services.unavailable = ((⟨true, [s]⟩, false), []) := by
  intro known missing s r post reordered
  have hperm : [known, missing].Perm post.videos := .swap missing known []
  have hrun (post : Post) := (r.judge_refines {} post).2.2.2.1 Services.unavailable
  refine ⟨hperm, r.verdict_reordered {} post Services.unavailable (.refl _) hperm, ?_, ?_⟩
  · exact (hrun post).trans rfl
  · exact (hrun reordered).trans rfl

end PostFilter
