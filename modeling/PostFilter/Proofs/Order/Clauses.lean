import Mathlib.Data.List.Basic
import PostFilter.Clause.Order
import PostFilter.Proofs.Order.Spells

/-!
# Order — clauses, sorted and each once

Clauses are totally ordered, and only equal clauses compare as equal. The order is lexicographic
over spells, groups and members, which are taken apart together, so the three facts about it
(`compare_swap`, `compare_fits`, `compare_eq`) are each one induction over all three.

What `sortDistinct` makes of a list is then determined by the clauses in the list alone.

* `mem_sortDistinct`, `pairwise_sortDistinct`: it holds the same clauses, strictly increasing.
* `sortDistinct_congr`: lists of the same clauses give the same result.
* `sortDistinct_eq_self`: a strictly increasing list is left as it is.
-/

namespace PostFilter.Order
open Std

theorem rank_joiner : ∀ a b : Joiner, a.rank = b.rank → a = b := by
  intro a b h
  cases a <;> cases b <;> first | rfl | cases h

instance : TransCmp Joiner.compare := inferInstanceAs (TransCmp (compareOn Joiner.rank))

instance : LawfulEqCmp Joiner.compare := lawfulEqCmp_key (rank_joiner _ _) Ord.compare

/-! ### The order of clauses -/

mutual

theorem compare_swap : ∀ a b : Clause, a.compare b = (b.compare a).swap
  | .spell _, .spell _ => @OrientedCmp.eq_swap _ Spell.compare _ _ _
  | .spell _, .group _ | .group _, .spell _ => rfl
  | .group g, .group h => compareGroups_swap g h

theorem compareGroups_swap : ∀ g h : Group, g.compare h = (h.compare g).swap
  | ⟨n, ms⟩, ⟨n', ms'⟩ => by
      rw [Group.compare, Group.compare, Ordering.swap_then, ← compareMembers_swap ms ms',
        ← OrientedCmp.eq_swap]

theorem compareMembers_swap : ∀ ms ms' : List Member,
    Group.compareMembers ms ms' = (Group.compareMembers ms' ms).swap
  | [], [] | [], _ :: _ | _ :: _, [] => rfl
  | ⟨c, j⟩ :: ms, ⟨c', j'⟩ :: ms' => by
      rw [Group.compareMembers, Group.compareMembers, Ordering.swap_then, Ordering.swap_then,
        ← compare_swap c c', ← compareMembers_swap ms ms',
        ← @OrientedCmp.eq_swap _ Joiner.compare _ _ _]

end

mutual

theorem compare_fits : ∀ a b c : Clause, Fits (a.compare b) (b.compare c) (a.compare c)
  | .spell a, .spell b, .spell c => fits_compare Spell.compare a b c
  | .spell _, .spell _, .group _ | .spell _, .group _, .spell _ | .spell _, .group _, .group _
  | .group _, .spell _, .spell _ | .group _, .spell _, .group _ | .group _, .group _, .spell _ => by
      simp +contextual [Fits, Clause.compare]
  | .group g, .group h, .group k => compareGroups_fits g h k

theorem compareGroups_fits : ∀ g h k : Group,
    Fits (g.compare h) (h.compare k) (g.compare k)
  | ⟨n, ms⟩, ⟨n', ms'⟩, ⟨n'', ms''⟩ =>
      (fits_compare Ord.compare n n' n'').then (compareMembers_fits ms ms' ms'')

theorem compareMembers_fits : ∀ ms ms' ms'' : List Member,
    Fits (Group.compareMembers ms ms') (Group.compareMembers ms' ms'')
      (Group.compareMembers ms ms'')
  | [], [], [] | [], [], _ :: _ | [], _ :: _, [] | [], _ :: _, _ :: _
  | _ :: _, [], [] | _ :: _, [], _ :: _ | _ :: _, _ :: _, [] => by
      simp +contextual [Fits, Group.compareMembers]
  | ⟨c, j⟩ :: ms, ⟨c', j'⟩ :: ms', ⟨c'', j''⟩ :: ms'' =>
      ((compare_fits c c' c'').then (fits_compare Joiner.compare j j' j'')).then
        (compareMembers_fits ms ms' ms'')

end

mutual

theorem compare_eq : ∀ a b : Clause, a.compare b = .eq ↔ a = b
  | .spell a, .spell b => by
      rw [Clause.compare, LawfulEqCmp.compare_eq_iff_eq, Clause.spell.injEq]
  | .spell _, .group _ | .group _, .spell _ => by simp [Clause.compare]
  | .group g, .group h => by rw [Clause.compare, compareGroups_eq g h, Clause.group.injEq]

theorem compareGroups_eq : ∀ g h : Group, g.compare h = .eq ↔ g = h
  | ⟨n, ms⟩, ⟨n', ms'⟩ => by
      rw [Group.compare, Ordering.then_eq_eq, LawfulEqCmp.compare_eq_iff_eq,
        compareMembers_eq ms ms', Group.mk.injEq]

theorem compareMembers_eq : ∀ ms ms' : List Member,
    Group.compareMembers ms ms' = .eq ↔ ms = ms'
  | [], [] | [], _ :: _ | _ :: _, [] => by simp [Group.compareMembers]
  | ⟨c, j⟩ :: ms, ⟨c', j'⟩ :: ms' => by
      rw [Group.compareMembers, Ordering.then_eq_eq, Ordering.then_eq_eq, compare_eq c c',
        LawfulEqCmp.compare_eq_iff_eq, compareMembers_eq ms ms', List.cons.injEq, Member.mk.injEq]

end

instance : TransCmp Clause.compare := transCmp_of_fits compare_swap compare_fits

instance : LawfulEqCmp Clause.compare where
  compare_self := (compare_eq _ _).2 rfl
  eq_of_compare h := (compare_eq _ _).1 h

theorem same_iff {a b : Clause} : a.same b = true ↔ a = b := by
  rw [Clause.same, beq_iff_eq, compare_eq]

/-! ### Sorting -/

/-- `a` comes before `b`. -/
def Before (a b : Clause) : Prop := a.compare b = .lt

instance : DecidableRel Before := fun a b => inferInstanceAs (Decidable (a.compare b = .lt))

/-- `a` comes before `b` or is `b`. -/
def NotBehind (a b : Clause) : Prop := (a.compare b).isLE = true

theorem notBehind_iff {a b : Clause} : NotBehind a b ↔ Before a b ∨ a = b := by
  rw [NotBehind, Before, ← compare_eq a b]
  cases a.compare b <;> decide

theorem NotBehind.antisymm {a b : Clause} (h : NotBehind a b) (h' : NotBehind b a) : a = b :=
  LawfulEqCmp.eq_of_compare (OrientedCmp.isLE_antisymm h h')

theorem not_before_self (a : Clause) : ¬ Before a a := by
  rw [Before, (compare_eq a a).2 rfl]
  decide

theorem Before.notBehind {a b : Clause} (h : Before a b) : NotBehind a b :=
  notBehind_iff.2 (Or.inl h)

theorem mem_sort {c : Clause} {cs : List Clause} : c ∈ Clause.sort cs ↔ c ∈ cs :=
  (List.mergeSort_perm cs _).mem_iff

theorem pairwise_sort (cs : List Clause) : (Clause.sort cs).Pairwise NotBehind := by
  have le_iff : ∀ a b : Clause, (a.compare b != .gt) = (a.compare b).isLE := fun a b => by
    cases a.compare b <;> rfl
  refine (List.pairwise_mergeSort (fun a b c h h' => ?_) (fun a b => ?_) cs).imp
    fun {a b} h => by rwa [NotBehind, ← le_iff]
  · rw [le_iff] at h h' ⊢
    exact TransCmp.isLE_trans h h'
  · rw [le_iff, le_iff, compare_swap b a]
    cases a.compare b <;> rfl

/-! ### Each once -/

theorem mem_dropRepeats {c : Clause} : ∀ cs : List Clause, c ∈ Clause.dropRepeats cs ↔ c ∈ cs
  | [] | [_] => by rw [Clause.dropRepeats]
  | a :: b :: rest => by
      have ih := mem_dropRepeats (c := c) (b :: rest)
      rw [Clause.dropRepeats]
      split
      · rename_i h
        rw [same_iff] at h
        rw [ih, h]
        simp
      · rw [List.mem_cons, ih, ← List.mem_cons]

/-- In a list in order, the clauses that stay behind a clause are the ones behind it. -/
theorem pairwise_dropRepeats : ∀ {cs : List Clause}, cs.Pairwise NotBehind →
    (Clause.dropRepeats cs).Pairwise Before
  | [], _ => List.Pairwise.nil
  | [_], _ => List.pairwise_singleton _ _
  | a :: b :: rest, h => by
      rw [List.pairwise_cons] at h
      rw [Clause.dropRepeats]
      split
      · exact pairwise_dropRepeats h.2
      · rename_i hab
        rw [same_iff] at hab
        refine List.pairwise_cons.2 ⟨fun c hc => ?_, pairwise_dropRepeats h.2⟩
        have hc := (mem_dropRepeats _).1 hc
        refine (notBehind_iff.1 (h.1 c hc)).resolve_right fun hac => hab ?_
        subst hac
        rcases List.mem_cons.1 hc with rfl | hc
        · rfl
        · exact (h.1 b (by simp)).antisymm ((List.pairwise_cons.1 h.2).1 _ hc)

/-! ### In order, each once -/

theorem mem_sortDistinct {c : Clause} {cs : List Clause} :
    c ∈ Clause.sortDistinct cs ↔ c ∈ cs := by
  rw [Clause.sortDistinct, mem_dropRepeats, mem_sort]

theorem pairwise_sortDistinct (cs : List Clause) : (Clause.sortDistinct cs).Pairwise Before :=
  pairwise_dropRepeats (pairwise_sort cs)

/-- **A strictly increasing list is determined by its clauses.** -/
theorem eq_of_pairwise_before {cs ds : List Clause} (hc : cs.Pairwise Before)
    (hd : ds.Pairwise Before) (h : ∀ c, c ∈ cs ↔ c ∈ ds) : cs = ds := by
  have ne : ∀ {a b : Clause}, Before a b → a ≠ b := by
    rintro a _ h rfl
    exact not_before_self a h
  have nodup : ∀ {es : List Clause}, es.Pairwise Before → es.Nodup := fun he => he.imp ne
  refine List.Perm.eq_of_pairwise (fun a b _ _ => NotBehind.antisymm)
    (hc.imp Before.notBehind) (hd.imp Before.notBehind) ?_
  exact (List.perm_ext_iff_of_nodup (nodup hc) (nodup hd)).2 h

/-- **Lists of the same clauses are sorted to the same list.** -/
theorem sortDistinct_congr {cs ds : List Clause} (h : ∀ c, c ∈ cs ↔ c ∈ ds) :
    Clause.sortDistinct cs = Clause.sortDistinct ds :=
  eq_of_pairwise_before (pairwise_sortDistinct cs) (pairwise_sortDistinct ds) fun c => by
    rw [mem_sortDistinct, mem_sortDistinct, h c]

theorem sortDistinct_eq_self {cs : List Clause} (h : cs.Pairwise Before) :
    Clause.sortDistinct cs = cs :=
  eq_of_pairwise_before (pairwise_sortDistinct cs) h fun _ => mem_sortDistinct

theorem sortDistinct_eq_nil {cs : List Clause} : Clause.sortDistinct cs = [] ↔ cs = [] := by
  simp only [List.eq_nil_iff_forall_not_mem, mem_sortDistinct]

end PostFilter.Order
