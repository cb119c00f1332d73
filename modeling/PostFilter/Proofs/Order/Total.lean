import PostFilter.Clause.Equality
import PostFilter.Proofs.Order.Clauses

/-!
# Order — the total order and equality

The order of clauses and their equality are computed apart from each other, and agree: both hold of
equal clauses only. So it makes no difference which of the two takes the repeats out of a sorted
list, and what is left of the list depends on the clauses in it alone.

* `equals_iff`: equality is equality.
* `dropEqual_eq_dropRepeats`: repeats by equality are the repeats of the order.
* `compare_pattern_iff`: patterns are told apart by source and flags.
* `compare_total`: the order, equality and the sorted list together.
-/

namespace PostFilter.Order
open Std

/-! ### Equality -/

mutual

theorem equals_iff : ∀ a b : Clause, a.equals b = true ↔ a = b
  | .spell a, .spell b => by rw [Clause.equals, beq_iff_eq, Clause.spell.injEq]
  | .spell _, .group _ | .group _, .spell _ => by simp [Clause.equals]
  | .group g, .group h => by rw [Clause.equals, equalGroups_iff g h, Clause.group.injEq]

theorem equalGroups_iff : ∀ g h : Group, g.equals h = true ↔ g = h
  | ⟨n, ms⟩, ⟨n', ms'⟩ => by
      rw [Group.equals, Bool.and_eq_true, beq_iff_eq, equalMembers_iff ms ms', Group.mk.injEq]

theorem equalMembers_iff : ∀ ms ms' : List Member,
    Group.equalMembers ms ms' = true ↔ ms = ms'
  | [], [] | [], _ :: _ | _ :: _, [] => by simp [Group.equalMembers]
  | ⟨c, j⟩ :: ms, ⟨c', j'⟩ :: ms' => by
      rw [Group.equalMembers, Bool.and_eq_true, Bool.and_eq_true, equals_iff c c', beq_iff_eq,
        equalMembers_iff ms ms', List.cons.injEq, Member.mk.injEq]

end

/-- The order and equality take the same clauses for the same. -/
theorem same_eq_equals (a b : Clause) : a.same b = a.equals b := by
  rw [Bool.eq_iff_iff, same_iff, equals_iff]

/-! ### Repeats

`eraseRepsBy` walks the list with the clause that it kept last and what it kept before that, in
reverse; `dropRepeats` has the last clause of a run stay where the other has the first. -/

theorem eraseRepsBy_loop (kept : List Clause) : ∀ (c : Clause) (cs : List Clause),
    List.eraseRepsBy.loop Clause.equals c cs kept =
      kept.reverse ++ Clause.dropRepeats (c :: cs) := by
  intro c cs
  induction cs generalizing c kept with
  | nil => simp [List.eraseRepsBy.loop, Clause.dropRepeats]
  | cons d ds ih =>
      rw [List.eraseRepsBy.loop, Clause.dropRepeats, same_eq_equals]
      cases h : c.equals d with
      | true =>
          obtain rfl := (equals_iff c d).1 h
          simpa using ih kept c
      | false => simpa using ih (c :: kept) d

theorem dropEqual_eq_dropRepeats (cs : List Clause) :
    Clause.dropEqual cs = Clause.dropRepeats cs := by
  cases cs with
  | nil => rfl
  | cons c cs => exact eraseRepsBy_loop [] c cs

/-! ### Patterns -/

/-- Patterns compare as equal when their sources and flags are the same. -/
theorem compare_pattern_iff (p q : Pattern) :
    p.compare q = .eq ↔ p.source = q.source ∧ p.flags = q.flags := by
  rw [LawfulEqCmp.compare_eq_iff_eq, Pattern.ext_iff]

/-! ### The order -/

/-- What two comparisons in a row agree on holds from end to end. -/
theorem compare_chain {a b c : Clause} {o : Ordering} (h : a.compare b = o)
    (h' : b.compare c = o) : a.compare c = o := by
  obtain ⟨-, -, chained⟩ := compare_fits a b c
  rw [chained (h.trans h'.symm), h]

/-- **Clauses are totally ordered, in agreement with equality.** Only equal clauses compare as
equal, and patterns among them are equal by source and flags; the other way round a comparison is
reversed; and what holds of two comparisons in a row holds from end to end. So sorting a list and
taking the repeats out of it gives a strictly increasing list of the same clauses, which is the same
for any list of these clauses. -/
theorem compare_total :
    (∀ a b : Clause, (a.compare b = .eq ↔ a = b) ∧ (a.equals b = true ↔ a = b) ∧
      b.compare a = (a.compare b).swap) ∧
    (∀ (a b c : Clause) (o : Ordering), a.compare b = o → b.compare c = o → a.compare c = o) ∧
    (∀ p q : Pattern, (p.compare q = .eq ↔ p.source = q.source ∧ p.flags = q.flags) ∧
      ((p == q) = true ↔ p.source = q.source ∧ p.flags = q.flags)) ∧
    ∀ cs ds : List Clause, (∀ c, c ∈ cs ↔ c ∈ ds) →
      Clause.dropEqual (Clause.sort cs) = Clause.dropEqual (Clause.sort ds) ∧
      (Clause.dropEqual (Clause.sort cs)).Pairwise (fun a b => a.compare b = .lt) ∧
      (∀ c, c ∈ Clause.dropEqual (Clause.sort cs) ↔ c ∈ cs) ∧
      Clause.dropEqual (Clause.sort cs) = Clause.sortDistinct cs := by
  refine ⟨fun a b => ⟨compare_eq a b, equals_iff a b, compare_swap b a⟩,
    fun a b c o => compare_chain, fun p q => ⟨compare_pattern_iff p q, ?_⟩, fun cs ds h => ?_⟩
  · rw [beq_iff_eq, Pattern.ext_iff]
  · rw [dropEqual_eq_dropRepeats, dropEqual_eq_dropRepeats]
    exact ⟨sortDistinct_congr h, pairwise_sortDistinct cs, fun c => mem_sortDistinct, rfl⟩

/-- `!#sage`, `#tlen(3,5-9)` and a negated group of both stand in this order; and a list of the
three in another arrangement, with a repeat, is sorted to it. -/
theorem compare_total_of_nested :
    let sage : Clause := .spell { kind := .sage, negated := true }
    let long : Clause := .spell { kind := .tlen, argument := some (.ranges [⟨3, 3⟩, ⟨5, 9⟩]) }
    let both : Clause := .group ⟨true, [⟨sage, .and⟩, ⟨.group ⟨false, [⟨long, .or⟩]⟩, .or⟩]⟩
    sage.compare both = .lt ∧ both.compare sage = .gt ∧ both.equals sage = false ∧
      Clause.dropEqual (Clause.sort [both, sage, long, both]) = [sage, long, both] := by
  intro sage long both
  obtain ⟨hpairs, htrans, -, hsorted⟩ := compare_total
  have hsage : sage.compare long = .lt := rfl
  have hlong : long.compare both = .lt := rfl
  have hboth : sage.compare both = .lt := htrans sage long both .lt hsage hlong
  have hgt : both.compare sage = .gt := by rw [(hpairs sage both).2.2, hboth]; rfl
  have hne : ¬ both.equals sage = true := fun h => by
    rw [(hpairs both sage).2.1, ← (hpairs both sage).1, hgt] at h
    cases h
  have hincreasing : [sage, long, both].Pairwise Before := by decide
  have hmem : ∀ c, c ∈ [both, sage, long, both] ↔ c ∈ [sage, long, both] := fun c => by
    simp only [List.mem_cons, List.not_mem_nil, or_false]
    tauto
  refine ⟨hboth, hgt, Bool.not_eq_true _ ▸ hne, ?_⟩
  rw [(hsorted _ _ hmem).1, (hsorted _ _ fun _ => Iff.rfl).2.2.2,
    sortDistinct_eq_self hincreasing]

end PostFilter.Order
