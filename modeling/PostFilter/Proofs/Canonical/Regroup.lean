import PostFilter.Clause.Chains
import PostFilter.Clause.Rearranged
import PostFilter.Proofs.Canonical.Shape

/-!
# Canonical form — chains written out reduce alike

A group of one joiner reduces to the canonical clause of its reduced members (`reduce_joins`).
Writing out the chains of a group changes nothing that it reduces to (`reduce_regroup`), and leaves
groups of one joiner only (`isChained_regroup`). So a fact about what every group reduces to may be
proved for such groups, by induction on `IsChained`.
-/

namespace PostFilter.Canonical
open PostFilter.Order

variable {place : Option Place}

/-! ### Chains of one member or none -/

/-- A chain without present members is absent. -/
theorem joinChain_absent (joiner : Joiner) (negated : Bool) {members : List (Option Clause)}
    (h : ∀ c, some c ∉ members) : Clause.joinChain joiner negated members = none := by
  rcases joinChain_cases joiner negated members with
    ⟨⟨c, hc, -⟩, -⟩ | ⟨-, ⟨-, ⟨c, hc, -⟩, -⟩ | ⟨-, -, he⟩ | ⟨hk, -⟩⟩
  · exact absurd hc (h c)
  · exact absurd hc (h c)
  · exact he
  · obtain ⟨d, hd⟩ := List.exists_mem_of_ne_nil _ hk
    obtain ⟨c, hc, -⟩ := mem_kept.1 hd
    exact absurd hc (h c)

theorem hasConstant_singleton {c : Clause} {value : Bool} :
    HasConstant value [some c] ↔ c.constant? = some value := by
  constructor
  · rintro ⟨d, hd, hvalue⟩
    cases List.mem_singleton.1 hd
    exact hvalue
  · exact fun h => ⟨c, List.mem_singleton_self _, h⟩

/-- A clause that is not constant gives a chain its parts. -/
theorem kept_singleton (joiner : Joiner) {c : Clause} (hc : c.constant? = none) :
    Clause.kept joiner ([some c].filterMap id) = Clause.sortDistinct (Clause.parts joiner c) := by
  have hfilter : [c].filter (fun c => c.constant?.isNone) = [c] := by simp [hc]
  change Clause.sortDistinct (([c].filter _).flatMap _) = _
  rw [hfilter, List.flatMap_singleton]

/-- A constant gives it nothing to keep. -/
theorem kept_singleton_constant (joiner : Joiner) {c : Clause} {value : Bool}
    (hc : c.constant? = some value) : Clause.kept joiner ([some c].filterMap id) = [] := by
  rw [List.eq_nil_iff_forall_not_mem]
  intro d hd
  obtain ⟨e, he, hnone, -⟩ := mem_kept.1 hd
  cases List.mem_singleton.1 he
  rw [hc] at hnone
  cases hnone

/-- A chain of one clause, if that is not constant, is the clause. -/
theorem joinChain_singleton (joiner : Joiner) (negated : Bool) {c : Clause} (h : Reduced c)
    (hc : c.constant? = none) :
    Clause.joinChain joiner negated [some c] = some (c.negateIf negated) := by
  have hkept := kept_singleton joiner hc
  have hne : Clause.kept joiner ([some c].filterMap id) ≠ [] := by
    rw [hkept, ne_eq, sortDistinct_eq_nil]
    exact parts_ne_nil h joiner
  have hd : ¬ HasConstant (!joiner.identity) [some c] := by
    rw [hasConstant_singleton, hc]
    simp
  rw [joinChain_of_kept hd hne, hkept]
  rcases h.parts_cases joiner with hp | ⟨cs, rfl, hp, two, sorted, -⟩
  · rw [hp, sortDistinct_eq_self (List.pairwise_singleton _ _), Clause.ofKept]
  · rw [hp, sortDistinct_eq_self sorted]
    match cs, two with
    | d :: e :: rest, _ => cases negated <;> rfl

/-- A chain of one clause, if that is constant, is the constant. -/
theorem joinChain_singleton_constant (joiner : Joiner) (negated : Bool) {c : Clause} {value : Bool}
    (hc : c.constant? = some value) :
    Clause.joinChain joiner negated [some c] = some (.constant (value != negated)) := by
  have hkept := kept_singleton_constant joiner hc
  by_cases hvalue : value = !joiner.identity
  · rw [joinChain_of_deciding (hasConstant_singleton.2 (hvalue ▸ hc)), hvalue]
  · have hd : ¬ HasConstant (!joiner.identity) [some c] := by
      rw [hasConstant_singleton, hc]
      exact fun h => hvalue (Option.some.inj h)
    have hidentity : value = joiner.identity := by
      rw [Bool.eq_not_of_ne hvalue, Bool.not_not]
    rw [joinChain_of_identity hd hkept (hasConstant_singleton.2 (hidentity ▸ hc)), hidentity]

/-- With one member or none, the joiner does not matter. -/
theorem joinChain_one (joiner joiner' : Joiner) (negated : Bool) {m : Option Clause}
    (h : ∀ c, m = some c → Reduced c) :
    Clause.joinChain joiner negated [m] = Clause.joinChain joiner' negated [m] := by
  cases m with
  | none => rw [joinChain_absent _ _ (by simp), joinChain_absent _ _ (by simp)]
  | some c =>
      cases hc : c.constant? with
      | none => rw [joinChain_singleton _ _ (h c rfl) hc, joinChain_singleton _ _ (h c rfl) hc]
      | some value => rw [joinChain_singleton_constant _ _ hc, joinChain_singleton_constant _ _ hc]

/-! ### Groups of one joiner -/

theorem joins_chainMembers (joiner : Joiner) : ∀ cs : List Clause,
    Group.Joins joiner cs (Group.chainMembers joiner cs)
  | [] => ⟨rfl, by rintro _ ⟨⟩⟩
  | [_] => ⟨rfl, by rintro _ ⟨⟩⟩
  | c :: d :: rest => by
      obtain ⟨hclauses, hjoiners⟩ := joins_chainMembers joiner (d :: rest)
      refine ⟨by rw [Group.chainMembers, List.map_cons, hclauses], ?_⟩
      have hne : Group.chainMembers joiner (d :: rest) ≠ [] := by
        rintro hnil
        rw [hnil] at hclauses
        cases hclauses
      rw [Group.chainMembers, List.dropLast_cons_of_ne_nil hne]
      exact List.forall_mem_cons.2 ⟨rfl, hjoiners⟩

/-- The joiner behind the last member is read after the run has ended. -/
theorem nestRun_joins {joiner : Joiner} (negated : Bool) : ∀ (members : List Member)
    (run : List (Option Clause)), (∀ m ∈ members.dropLast, m.joiner = joiner) →
    Clause.nestRun negated run (some joiner) joiner (Group.reduceMembers place members) =
      Clause.joinChain joiner negated
        (run.reverse ++ (members.map Member.clause).map (Clause.reduce place))
  | [], run, _ => by
      rw [Group.reduceMembers, Clause.nestRun, List.map_nil, List.map_nil, List.append_nil]
      rfl
  | [⟨c, next⟩], run, _ => by
      rw [Group.reduceMembers, Group.reduceMembers, Clause.nestRun, if_pos rfl, Clause.nestRun,
        List.reverse_cons]
      rfl
  | ⟨c, next⟩ :: m :: rest, run, h => by
      rw [List.dropLast_cons_cons, List.forall_mem_cons] at h
      obtain rfl : next = joiner := h.1
      rw [Group.reduceMembers, Clause.nestRun, if_pos rfl, nestRun_joins negated (m :: rest) _ h.2,
        List.reverse_cons, List.append_assoc]
      rfl

/-- **A group of one joiner reduces to the chain of its reduced members.** -/
theorem reduce_joins {joiner : Joiner} (negated : Bool) {cs : List Clause} :
    ∀ {members : List Member}, Group.Joins joiner cs members →
      Group.reduce place ⟨negated, members⟩ =
        Clause.joinChain joiner negated (cs.map (Clause.reduce place))
  | [], ⟨hclauses, _⟩ => by
      subst hclauses
      exact (joinChain_absent joiner negated (by simp)).symm
  | [⟨c, _⟩], ⟨hclauses, _⟩ => by
      subst hclauses
      exact joinChain_one .or joiner negated fun d hd => reduced_reduce place c d hd
  | ⟨c, link⟩ :: ⟨d, next⟩ :: rest, ⟨hclauses, hjoiners⟩ => by
      subst hclauses
      rw [List.dropLast_cons_cons, List.forall_mem_cons] at hjoiners
      obtain rfl : link = joiner := hjoiners.1
      -- The first joiner of a chain makes the run one of that joiner, as if it had been known.
      have hfirst : Clause.nestRun negated [c.reduce place] none link
          (Group.reduceMembers place (⟨d, next⟩ :: rest)) =
          Clause.nestRun negated [c.reduce place] (some link) link
            (Group.reduceMembers place (⟨d, next⟩ :: rest)) := by
        rw [Group.reduceMembers, Clause.nestRun, Clause.nestRun, if_pos rfl]
      rw [Group.reduce, Group.reduceMembers, Clause.nest, hfirst,
        nestRun_joins negated _ _ hjoiners.2]
      rfl

theorem reduce_chain (joiner : Joiner) (negated : Bool) (cs : List Clause) :
    Group.reduce place ⟨negated, Group.chainMembers joiner cs⟩ =
      Clause.joinChain joiner negated (cs.map (Clause.reduce place)) :=
  reduce_joins negated (joins_chainMembers joiner cs)

/-! ### Writing out chains -/

theorem reduce_regroupRun (negated : Bool) : ∀ (rest : List (Clause × Joiner)) (run : List Clause)
    (joiner? : Option Joiner) (link : Joiner),
    (Group.regroupRun negated run joiner? link rest).reduce place =
      Clause.nestRun negated (run.map (Clause.reduce place)) joiner? link
        (rest.map fun m => (m.1.reduce place, m.2)) := by
  intro rest
  induction rest with
  | nil =>
      intro run joiner? link
      rw [Group.regroupRun, reduce_chain, List.map_reverse]
      rfl
  | cons m rest ih =>
      obtain ⟨c, next⟩ := m
      intro run joiner? link
      rw [Group.regroupRun.eq_def, List.map_cons, Clause.nestRun.eq_def]
      cases joiner? with
      | none => exact ih (c :: run) (some link) next
      | some joiner =>
          dsimp only
          split
          · exact ih (c :: run) (some link) next
          · -- Where the run ends, nesting makes a canonical chain of it and writing out a group.
            have hchain : Clause.reduce place (.group (Group.chain joiner run.reverse)) =
                Clause.joinChain joiner false (run.map (Clause.reduce place)).reverse := by
              rw [Clause.reduce, Group.chain, reduce_chain, List.map_reverse]
            rw [ih, List.map_cons, List.map_singleton, hchain]

mutual

/-- **Writing out its chains changes nothing that a clause reduces to.** -/
theorem reduce_regroup : ∀ c : Clause, c.regroup.reduce place = c.reduce place
  | .spell _ => rfl
  | .group g => reduceGroup_regroup g

theorem reduceGroup_regroup : ∀ g : Group, g.regroup.reduce place = g.reduce place
  | ⟨negated, members⟩ => by
      rw [Group.regroup, Group.reduce, ← reduce_regroupMembers members]
      match Group.regroupMembers members with
      | [] => rfl
      | (c, link) :: rest => exact reduce_regroupRun negated rest [c] none link

theorem reduce_regroupMembers : ∀ members : List Member,
    (Group.regroupMembers members).map (fun m => (m.1.reduce place, m.2)) =
      Group.reduceMembers place members
  | [] => rfl
  | ⟨c, joiner⟩ :: rest => by
      rw [Group.regroupMembers, Group.reduceMembers, List.map_cons, reduce_regroup c,
        reduce_regroupMembers rest]

end

/-- Clauses in which every group has one joiner. -/
inductive IsChained : Clause → Prop where
  | spell (s : Spell) : IsChained (.spell s)
  | chain {cs : List Clause} (joiner : Joiner) (negated : Bool) (members : ∀ c ∈ cs, IsChained c) :
      IsChained (.group ⟨negated, Group.chainMembers joiner cs⟩)

theorem isChained_regroupRun (negated : Bool) : ∀ (rest : List (Clause × Joiner))
    (run : List Clause) (joiner? : Option Joiner) (link : Joiner),
    (∀ c ∈ run, IsChained c) → (∀ m ∈ rest, IsChained m.1) →
    IsChained (.group (Group.regroupRun negated run joiner? link rest)) := by
  intro rest
  induction rest with
  | nil =>
      intro run joiner? link hrun _
      exact .chain _ _ fun c hc => hrun c (List.mem_reverse.1 hc)
  | cons m rest ih =>
      obtain ⟨c, next⟩ := m
      intro run joiner? link hrun hrest
      have hc : IsChained c := hrest (c, next) (by simp)
      have hrest : ∀ m ∈ rest, IsChained m.1 := fun m hm => hrest m (List.mem_cons_of_mem _ hm)
      rw [Group.regroupRun.eq_def]
      cases joiner? with
      | none => exact ih _ _ _ (List.forall_mem_cons.2 ⟨hc, hrun⟩) hrest
      | some joiner =>
          dsimp only
          split
          · exact ih _ _ _ (List.forall_mem_cons.2 ⟨hc, hrun⟩) hrest
          · refine ih _ _ _ (List.forall_mem_cons.2 ⟨hc, List.forall_mem_singleton.2 ?_⟩) hrest
            exact .chain joiner false fun d hd => hrun d (List.mem_reverse.1 hd)

mutual

theorem isChained_regroup : ∀ c : Clause, IsChained c.regroup
  | .spell s => .spell s
  | .group g => isChained_regroupGroup g

theorem isChained_regroupGroup : ∀ g : Group, IsChained (.group g.regroup)
  | ⟨negated, members⟩ => by
      have hmembers := isChained_regroupMembers members
      rw [Group.regroup]
      match Group.regroupMembers members, hmembers with
      | [], _ =>
          have hempty : IsChained (.group ⟨negated, Group.chainMembers .or []⟩) :=
            .chain .or negated (by simp)
          exact hempty
      | (c, link) :: rest, hmembers =>
          exact isChained_regroupRun negated rest [c] none link
            (List.forall_mem_singleton.2 (hmembers (c, link) (by simp)))
            fun m hm => hmembers m (List.mem_cons_of_mem _ hm)

theorem isChained_regroupMembers : ∀ members : List Member,
    ∀ m ∈ Group.regroupMembers members, IsChained m.1
  | [], m, hm => by cases hm
  | ⟨c, joiner⟩ :: rest, m, hm => by
      rw [Group.regroupMembers] at hm
      rcases List.mem_cons.1 hm with rfl | hm
      · exact isChained_regroup c
      · exact isChained_regroupMembers rest m hm

end

end PostFilter.Canonical
