import PostFilter.Clause.Canonical
import PostFilter.Proofs.Order.Clauses

/-!
# Canonical form — its shape

A reduced clause (`Reduced`) is a spell, or a group of at least two members with one joiner, in
strictly increasing order, none of which is constant or an un-negated chain with that same joiner.
`Group.reduce` gives nothing else (`reduced_reduce`).

Reduction makes clauses only by `Clause.joinChain`, from members that are themselves results of it.
`nest_induction` says so once: what `joinChain` hands on from members to chain holds of whatever
members are nested into.
-/

namespace PostFilter.Canonical
open PostFilter.Order

/-! ### Negation -/

theorem negate_negate (c : Clause) : c.negate.negate = c := by
  cases c with
  | spell s => simp [Clause.negate, Spell.negate]
  | group g => obtain ⟨negated, members⟩ := g; simp [Clause.negate]

theorem constant?_negate (c : Clause) : c.negate.constant? = c.constant?.map (!·) := by
  cases c with
  | group g => rfl
  | spell s =>
      simp only [Clause.negate, Clause.constant?, Spell.constant?, Spell.negate]
      split <;> rfl

theorem constant?_negateIf {c : Clause} (negated : Bool) (h : c.constant? = none) :
    (c.negateIf negated).constant? = none := by
  cases negated with
  | false => exact h
  | true => rw [Clause.negateIf, if_pos rfl, constant?_negate, h]; rfl

@[simp] theorem constant?_constant (value : Bool) :
    (Clause.constant value).constant? = some value := by
  cases value <;> rfl

/-! ### Chains -/

@[simp] theorem clauses_chainMembers (joiner : Joiner) :
    ∀ cs : List Clause, (Group.chainMembers joiner cs).map Member.clause = cs
  | [] | [_] => rfl
  | c :: d :: rest => by
      rw [Group.chainMembers, List.map_cons, clauses_chainMembers joiner (d :: rest)]

/-- An un-negated chain gives up its clauses to a chain with the same joiner. -/
theorem parts_chain {joiner : Joiner} {cs : List Clause} (h : 2 ≤ cs.length) :
    Clause.parts joiner (.group ⟨false, Group.chainMembers joiner cs⟩) = cs := by
  match cs, h with
  | c :: d :: rest, _ =>
      cases rest <;> simp [Group.chainMembers, Clause.parts]

/-- To a chain with another joiner, or if it is negated, it gives itself. -/
theorem parts_other {joiner joiner' : Joiner} {negated : Bool} {cs : List Clause}
    (h : 2 ≤ cs.length) (hn : negated = true ∨ joiner' ≠ joiner) :
    Clause.parts joiner (.group ⟨negated, Group.chainMembers joiner' cs⟩) =
      [.group ⟨negated, Group.chainMembers joiner' cs⟩] := by
  match cs, h with
  | c :: d :: rest, _ =>
      cases negated with
      | true => rfl
      | false =>
          have hj : joiner' ≠ joiner := hn.resolve_left Bool.false_ne_true
          cases rest <;> simp [Group.chainMembers, Clause.parts, hj]

/-! ### Reduced clauses -/

/-- Whether a chain with this joiner keeps the clause as it is: it is neither constant nor an
un-negated chain with the same joiner. -/
def IsLink (joiner : Joiner) (c : Clause) : Prop :=
  c.constant? = none ∧ Clause.parts joiner c = [c]

/-- Clauses in the shape that reduction gives them. -/
inductive Reduced : Clause → Prop where
  | spell (s : Spell) : Reduced (.spell s)
  | chain {joiner : Joiner} {cs : List Clause} (negated : Bool) (two : 2 ≤ cs.length)
      (sorted : cs.Pairwise Before) (links : ∀ c ∈ cs, IsLink joiner c)
      (members : ∀ c ∈ cs, Reduced c) :
      Reduced (.group ⟨negated, Group.chainMembers joiner cs⟩)

theorem Reduced.negate {c : Clause} (h : Reduced c) : Reduced c.negate := by
  cases h with
  | spell s => exact .spell _
  | chain negated two sorted links members => exact .chain (!negated) two sorted links members

theorem Reduced.negateIf {c : Clause} (h : Reduced c) (negated : Bool) :
    Reduced (c.negateIf negated) := by
  cases negated with
  | false => exact h
  | true => exact h.negate

/-- A reduced clause is kept by a chain as it is, or is opened into clauses that are. -/
theorem Reduced.parts_cases {c : Clause} (h : Reduced c) (joiner : Joiner) :
    Clause.parts joiner c = [c] ∨ ∃ cs : List Clause,
      c = .group ⟨false, Group.chainMembers joiner cs⟩ ∧ Clause.parts joiner c = cs ∧
        2 ≤ cs.length ∧ cs.Pairwise Before ∧ (∀ d ∈ cs, IsLink joiner d) ∧
        ∀ d ∈ cs, Reduced d := by
  cases h with
  | spell s => exact Or.inl rfl
  | @chain joiner' cs negated two sorted links members =>
      cases negated with
      | true => exact Or.inl (parts_other two (Or.inl rfl))
      | false =>
          by_cases hj : joiner' = joiner
          · subst hj
            exact Or.inr ⟨cs, rfl, parts_chain two, two, sorted, links, members⟩
          · exact Or.inl (parts_other two (Or.inr hj))

theorem Reduced.of_mem_parts {c d : Clause} {joiner : Joiner} (h : Reduced c)
    (hc : c.constant? = none) (hd : d ∈ Clause.parts joiner c) : IsLink joiner d ∧ Reduced d := by
  rcases h.parts_cases joiner with hp | ⟨cs, -, hp, -, -, links, members⟩
  · rw [hp, List.mem_singleton] at hd
    subst hd
    exact ⟨⟨hc, hp⟩, h⟩
  · rw [hp] at hd
    exact ⟨links d hd, members d hd⟩

theorem parts_ne_nil {c : Clause} (h : Reduced c) (joiner : Joiner) :
    Clause.parts joiner c ≠ [] := by
  rcases h.parts_cases joiner with hp | ⟨cs, -, hp, two, -⟩
  · rw [hp]; exact List.cons_ne_nil _ _
  · rw [hp]; rintro rfl; exact absurd two (by decide)

/-! ### Joining -/

/-- What a chain keeps are the parts of the present members that are not constant. -/
theorem mem_kept {joiner : Joiner} {members : List (Option Clause)} {d : Clause} :
    d ∈ Clause.kept joiner (members.filterMap id) ↔
      ∃ c, some c ∈ members ∧ c.constant? = none ∧ d ∈ Clause.parts joiner c := by
  rw [Clause.kept, mem_sortDistinct]
  simp only [List.mem_flatMap, List.mem_filter, Option.isNone_iff_eq_none, and_assoc,
    List.mem_filterMap, id, exists_eq_right]

theorem pairwise_kept (joiner : Joiner) (present : List Clause) :
    (Clause.kept joiner present).Pairwise Before := pairwise_sortDistinct _

/-- Whether some member is the constant with this value. -/
def HasConstant (value : Bool) (members : List (Option Clause)) : Prop :=
  ∃ c, some c ∈ members ∧ c.constant? = some value

theorem any_constant_iff {value : Bool} {members : List (Option Clause)} :
    ((members.filterMap id).any fun c => c.constant? == some value) = true ↔
      HasConstant value members := by
  simp only [HasConstant, List.any_eq_true, List.mem_filterMap, id, exists_eq_right, beq_iff_eq]

section Outcomes

variable {joiner : Joiner} {negated : Bool} {members : List (Option Clause)}

/-- One constant decides a chain. -/
theorem joinChain_of_deciding (hd : HasConstant (!joiner.identity) members) :
    Clause.joinChain joiner negated members =
      some (.constant ((!joiner.identity) != negated)) := by
  rw [Clause.joinChain, if_pos (any_constant_iff.2 hd)]

/-- The other one changes nothing, and is left if nothing else is. -/
theorem joinChain_of_identity (hd : ¬ HasConstant (!joiner.identity) members)
    (hk : Clause.kept joiner (members.filterMap id) = [])
    (hi : HasConstant joiner.identity members) :
    Clause.joinChain joiner negated members = some (.constant (joiner.identity != negated)) := by
  rw [Clause.joinChain, if_neg (mt any_constant_iff.1 hd), hk, if_pos List.isEmpty_nil,
    if_pos (any_constant_iff.2 hi)]

theorem joinChain_of_nothing (hd : ¬ HasConstant (!joiner.identity) members)
    (hk : Clause.kept joiner (members.filterMap id) = [])
    (hi : ¬ HasConstant joiner.identity members) :
    Clause.joinChain joiner negated members = none := by
  rw [Clause.joinChain, if_neg (mt any_constant_iff.1 hd), hk, if_pos List.isEmpty_nil,
    if_neg (mt any_constant_iff.1 hi)]

/-- Otherwise a chain is what it keeps. -/
theorem joinChain_of_kept (hd : ¬ HasConstant (!joiner.identity) members)
    (hk : Clause.kept joiner (members.filterMap id) ≠ []) :
    Clause.joinChain joiner negated members =
      some (Clause.ofKept joiner negated (Clause.kept joiner (members.filterMap id))) := by
  rw [Clause.joinChain, if_neg (mt any_constant_iff.1 hd), if_neg (mt List.isEmpty_iff.1 hk)]

/-- What a chain without constants comes to is told by any list that holds the same in order. -/
theorem joinChain_of_sorted (cs : List Clause)
    (hconst : ∀ c ∈ members.filterMap id, c.constant? = none) (sorted : cs.Pairwise Before)
    (hne : cs ≠ [])
    (same : ∀ d, d ∈ (members.filterMap id).flatMap (Clause.parts joiner) ↔ d ∈ cs) :
    Clause.joinChain joiner negated members = some (Clause.ofKept joiner negated cs) := by
  have hkept : Clause.kept joiner (members.filterMap id) = cs := by
    rw [Clause.kept, List.filter_eq_self.2 fun c hc => Option.isNone_iff_eq_none.2 (hconst c hc)]
    exact eq_of_pairwise_before (pairwise_sortDistinct _) sorted fun d =>
      mem_sortDistinct.trans (same d)
  have hdeciding : ¬ HasConstant (!joiner.identity) members := by
    rintro ⟨c, hc, hvalue⟩
    rw [hconst c (List.mem_filterMap.2 ⟨_, hc, rfl⟩)] at hvalue
    cases hvalue
  rw [joinChain_of_kept hdeciding (hkept.trans_ne hne), hkept]

end Outcomes

/-- The three things that a chain can come to: the constant that decides it, the constant that
changes nothing if there is nothing else, or what it keeps. -/
theorem joinChain_cases (joiner : Joiner) (negated : Bool) (members : List (Option Clause)) :
    (HasConstant (!joiner.identity) members ∧
      Clause.joinChain joiner negated members =
        some (.constant ((!joiner.identity) != negated))) ∨
    (¬ HasConstant (!joiner.identity) members ∧
      ((Clause.kept joiner (members.filterMap id) = [] ∧ HasConstant joiner.identity members ∧
          Clause.joinChain joiner negated members =
            some (.constant (joiner.identity != negated))) ∨
        (Clause.kept joiner (members.filterMap id) = [] ∧
          ¬ HasConstant joiner.identity members ∧
          Clause.joinChain joiner negated members = none) ∨
        (Clause.kept joiner (members.filterMap id) ≠ [] ∧
          Clause.joinChain joiner negated members =
            some (Clause.ofKept joiner negated
              (Clause.kept joiner (members.filterMap id)))))) := by
  by_cases hd : HasConstant (!joiner.identity) members
  · exact Or.inl ⟨hd, joinChain_of_deciding hd⟩
  · refine Or.inr ⟨hd, ?_⟩
    by_cases hk : Clause.kept joiner (members.filterMap id) = []
    · by_cases hi : HasConstant joiner.identity members
      · exact Or.inl ⟨hk, hi, joinChain_of_identity hd hk hi⟩
      · exact Or.inr (Or.inl ⟨hk, hi, joinChain_of_nothing hd hk hi⟩)
    · exact Or.inr (Or.inr ⟨hk, joinChain_of_kept hd hk⟩)

/-- What a chain keeps makes no constant. -/
theorem constant?_ofKept {joiner : Joiner} {negated : Bool} {cs : List Clause}
    (h : ∀ c ∈ cs, c.constant? = none) : (Clause.ofKept joiner negated cs).constant? = none := by
  match cs, h with
  | [], _ | _ :: _ :: _, _ => rfl
  | [c], h => exact constant?_negateIf negated (h c (List.mem_singleton_self c))

/-- Chains of clauses that a chain keeps are reduced. -/
theorem reduced_ofKept {joiner : Joiner} (negated : Bool) {cs : List Clause} (hne : cs ≠ [])
    (sorted : cs.Pairwise Before) (links : ∀ c ∈ cs, IsLink joiner c)
    (members : ∀ c ∈ cs, Reduced c) : Reduced (Clause.ofKept joiner negated cs) := by
  match cs with
  | [] => exact absurd rfl hne
  | [c] => exact (members c (by simp)).negateIf negated
  | c :: d :: rest => exact .chain negated (by simp) sorted links members

/-- Every member of a list of clauses, some absent, is reduced. -/
def AllReduced (members : List (Option Clause)) : Prop := ∀ c, some c ∈ members → Reduced c

theorem AllReduced.of_mem_kept {members : List (Option Clause)} (h : AllReduced members)
    {joiner : Joiner} {d : Clause} (hd : d ∈ Clause.kept joiner (members.filterMap id)) :
    IsLink joiner d ∧ Reduced d := by
  obtain ⟨c, hc, hn, hd⟩ := mem_kept.1 hd
  exact (h c hc).of_mem_parts hn hd

theorem reduced_joinChain {joiner : Joiner} {negated : Bool} {members : List (Option Clause)}
    (h : AllReduced members) {c : Clause}
    (hc : Clause.joinChain joiner negated members = some c) : Reduced c := by
  rcases joinChain_cases joiner negated members with
    ⟨-, he⟩ | ⟨-, ⟨-, -, he⟩ | ⟨-, -, he⟩ | ⟨hk, he⟩⟩
  · cases he ▸ hc; exact .spell _
  · cases he ▸ hc; exact .spell _
  · cases he ▸ hc
  · cases he ▸ hc
    exact reduced_ofKept negated hk (pairwise_kept _ _) (fun d hd => (h.of_mem_kept hd).1)
      fun d hd => (h.of_mem_kept hd).2

/-! ### Nesting and reduction -/

/-- What chains hand on from their members to themselves holds of a nest of such members. -/
theorem nestRun_induction {P : Option Clause → Prop}
    (chain : ∀ joiner negated members, (∀ m ∈ members, P m) →
      P (Clause.joinChain joiner negated members)) (negated : Bool) :
    ∀ (rest : List (Option Clause × Joiner)) (run : List (Option Clause))
      (joiner? : Option Joiner) (link : Joiner), (∀ m ∈ run, P m) → (∀ m ∈ rest, P m.1) →
      P (Clause.nestRun negated run joiner? link rest) := by
  intro rest
  induction rest with
  | nil =>
      intro run joiner? link hrun _
      exact chain _ _ _ fun m hm => hrun m (List.mem_reverse.1 hm)
  | cons m rest ih =>
      obtain ⟨c, next⟩ := m
      intro run joiner? link hrun hrest
      have hc : P c := hrest (c, next) (by simp)
      have hrest : ∀ m ∈ rest, P m.1 := fun m hm => hrest m (List.mem_cons_of_mem _ hm)
      have hrun' : ∀ m ∈ c :: run, P m := List.forall_mem_cons.2 ⟨hc, hrun⟩
      cases joiner? with
      | none => exact ih _ _ _ hrun' hrest
      | some joiner =>
          rw [Clause.nestRun]
          split
          · exact ih _ _ _ hrun' hrest
          · refine ih _ _ _ (List.forall_mem_cons.2 ⟨hc, List.forall_mem_singleton.2 ?_⟩) hrest
            exact chain _ _ _ fun m hm => hrun m (List.mem_reverse.1 hm)

theorem nest_induction {P : Option Clause → Prop} (absent : P none)
    (chain : ∀ joiner negated members, (∀ m ∈ members, P m) →
      P (Clause.joinChain joiner negated members))
    (negated : Bool) (members : List (Option Clause × Joiner)) (h : ∀ m ∈ members, P m.1) :
    P (Clause.nest negated members) := by
  match members with
  | [] => exact absent
  | (c, link) :: rest =>
      exact nestRun_induction chain negated rest [c] none link
        (List.forall_mem_singleton.2 (h (c, link) (by simp)))
        fun m hm => h m (List.mem_cons_of_mem _ hm)

mutual

/-- **Reduction gives reduced clauses.** -/
theorem reduced_reduce (place : Option Place) :
    ∀ (c d : Clause), c.reduce place = some d → Reduced d
  | .spell s, d, h => by
      rw [Clause.reduce] at h
      split at h
      · cases h; exact .spell s
      · cases h
  | .group g, d, h => reduced_reduceGroup place g d h

theorem reduced_reduceGroup (place : Option Place) :
    ∀ (g : Group) (d : Clause), g.reduce place = some d → Reduced d
  | ⟨negated, members⟩, d, h =>
      nest_induction (P := fun m => ∀ d, m = some d → Reduced d) (by simp)
        (fun _ _ ms hms _ he => reduced_joinChain (fun c hc => hms (some c) hc c rfl) he) negated _
        (reduced_reduceMembers place members) d h

theorem reduced_reduceMembers (place : Option Place) : ∀ (members : List Member),
    ∀ m ∈ Group.reduceMembers place members, ∀ d, m.1 = some d → Reduced d
  | [], m, hm => by cases hm
  | ⟨c, joiner⟩ :: rest, m, hm => by
      rcases List.mem_cons.1 hm with rfl | hm
      · exact reduced_reduce place c
      · exact reduced_reduceMembers place rest m hm

end

/-- What clauses are reduced to is reduced. -/
theorem allReduced_map_reduce (place : Option Place) (cs : List Clause) :
    AllReduced (cs.map (Clause.reduce place)) := by
  intro d hd
  obtain ⟨c, -, hcd⟩ := List.mem_map.1 hd
  exact reduced_reduce place c d hcd

end PostFilter.Canonical
