import PostFilter.Proofs.Canonical.Meaning
import PostFilter.Proofs.Verdict.Account

/-!
# Verdicts — what compiled rules decide

A decision depends on the visited spells only (`Group.outcome_congr`). So if no lookup failed on the
way, the outcome is that of the plain predicates, and canonical forms do not change it: compiled
rules hide a post at a place exactly if the filter that was written is present there and true
(`Document.matched_compile`).
-/

namespace PostFilter

/-! ### Visited spells -/

section Visited

variable {value value' : Spell → Bool}

mutual

theorem Clause.outcome_congr : ∀ c : Clause, (∀ s ∈ c.visited value, value s = value' s) →
    c.outcome value = c.outcome value'
  | .spell s, h => by
      rw [Clause.outcome, Clause.outcome, h s (List.mem_singleton_self s)]
  | .group g, h => Group.outcome_congr g h

/-- **What a group comes to depends on the spells that are visited only.** -/
theorem Group.outcome_congr : ∀ g : Group, (∀ s ∈ g.visited value, value s = value' s) →
    g.outcome value = g.outcome value'
  | ⟨negated, members⟩, h => by
      rw [Group.outcome, Group.outcome, Group.foldOutcome_congr members none .or h]

theorem Group.foldOutcome_congr : ∀ (members : List Member) (found : Option Outcome)
    (link : Joiner), (∀ s ∈ Group.foldVisited value (found.map Outcome.value) link members,
      value s = value' s) →
    Group.foldOutcome value found link members = Group.foldOutcome value' found link members
  | [], found, link, _ => rfl
  | ⟨c, joiner⟩ :: rest, found, link, h => by
      rw [Group.foldVisited, any_isSettledBy] at h
      rw [Group.foldOutcome, Group.foldOutcome]
      split
      · rename_i hsettled
        rw [if_pos hsettled] at h
        exact Group.foldOutcome_congr rest found joiner h
      · rename_i hopen
        rw [if_neg hopen] at h
        have hvalue := Outcome.value_joinTo_of_unsettled (Bool.not_eq_true _ ▸ hopen)
          (c.outcome value)
        have hc := Clause.outcome_congr c fun s hs => h s (List.mem_append_left _ hs)
        rw [← hc]
        refine Group.foldOutcome_congr rest _ joiner fun s hs => h s (List.mem_append_right _ ?_)
        rw [Option.map_some, hvalue] at hs
        exact hs

end

end Visited

/-! ### Predicates of a post -/

/-- What each predicate says about a post; a lookup that fails is no match. -/
def Valuation.ofPost (settings : Settings) (post : Post) (services : Services) : Valuation :=
  fun kind argument scope =>
    Spell.matchesPost settings post services
      { kind := kind, argument := argument, scope := scope }

variable {settings : Settings} {post : Post} {services : Services}

/-- A spell none of whose lookups fails counts as its predicate says. -/
theorem Spell.countsAs_of_not_hasFailure {s : Spell}
    (h : s.hasFailure settings post services = false) :
    s.countsAs settings post services = (Valuation.ofPost settings post services).ofSpell s := by
  rw [countsAs, h, Bool.false_and, if_neg Bool.false_ne_true]
  rfl

theorem Valuation.hasAllTrue_ofPost (g : Group) :
    (Valuation.ofPost settings post services).HasAllTrue g :=
  ⟨rfl, fun _ _ _ _ => rfl⟩

/-! ### Rulesets -/

/-- What a ruleset decides, and whether a lookup fails on the way. -/
theorem Ruleset.value_judge_of_filter {r : Ruleset} {g : Group} (h : r.filter = some g) :
    (r.judge settings post).value services =
      (Verdict.ofOutcome (g.outcome (Spell.countsAs settings post services)),
        (g.visited (Spell.countsAs settings post services)).any
          (Spell.hasFailure settings post services)) := by
  rw [Ruleset.judge, h]
  dsimp only
  rw [g.walk_eq_decide, Inquiry.value_bind, Inquiry.value_done, Inquiry.value, g.run_decide]

theorem Ruleset.value_verdict (r : Ruleset) :
    (r.verdict settings post).value services = ((r.judge settings post).value services).1 :=
  Inquiry.value_bind ..

/-- Whether a lookup fails while a ruleset decides for a post. -/
def Ruleset.isDegraded (r : Ruleset) (settings : Settings) (post : Post) (services : Services) :
    Bool :=
  ((r.judge settings post).value services).2

namespace Canonical

/-- A canonical form evaluates to the value of the group, and there is none where the group is
absent. -/
theorem value?_eq_canonical {v : Valuation} {g : Group} (place : Option Place)
    (hv : v.HasAllTrue g) :
    g.value? v place = (g.canonical? place).map fun t => t.isTrue v.ofSpell := by
  have hvalue : memberValue v (g.reduce place) = g.value? v place :=
    value?_reduce hv.1 (.group g) hv.2
  rw [← hvalue, Group.canonical?]
  cases hc : g.reduce place with
  | none => rfl
  | some c => exact (isTrue_asRoot (reduced_reduceGroup place g c hc)).symm

end Canonical

namespace Document

/-- The value of the rules at a place; rules that are absent there are false. -/
def isTrueAt (v : Valuation) (place : Place) (d : Document) : Bool :=
  (d.filter.bind fun g => g.value? v (some place)).getD false

/-- **Compiled rules hide what the written rules say**, if no lookup fails. -/
theorem matched_compile {d : Document} {place : Place}
    (h : (d.compile place).isDegraded settings post services = false) :
    (((d.compile place).verdict settings post).value services).matched =
      d.isTrueAt (Valuation.ofPost settings post services) place := by
  have hfilter : (d.compile place).filter = d.filter.bind (Group.canonical? (some place)) := rfl
  have hvalue : (d.filter.bind fun g => g.value? (Valuation.ofPost settings post services)
      (some place)) = (d.compile place).filter.map fun t =>
        t.isTrue (Valuation.ofPost settings post services).ofSpell := by
    rw [hfilter]
    cases d.filter with
    | none => rfl
    | some g => exact Canonical.value?_eq_canonical _ (Valuation.hasAllTrue_ofPost g)
  rw [isTrueAt, hvalue, Ruleset.value_verdict]
  cases ht : (d.compile place).filter with
  | none =>
      rw [Ruleset.judge, ht]
      rfl
  | some t =>
      rw [Ruleset.isDegraded, Ruleset.value_judge_of_filter ht, List.any_eq_false] at h
      rw [Ruleset.value_judge_of_filter ht]
      have houtcome := t.outcome_congr fun s hs =>
        Spell.countsAs_of_not_hasFailure (Bool.not_eq_true _ ▸ h s hs)
      exact congrArg Outcome.value houtcome

end Document

end PostFilter
