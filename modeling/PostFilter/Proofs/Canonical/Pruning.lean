import PostFilter.Proofs.Canonical.Regroup

/-!
# Canonical form — pruning it at a place

The canonical form without a place may be reduced once more, at a place (`prune`). Does that give
the canonical form at the place? It does for a group in which no chain is exposed there
(`keepsAt_of_hasExposed`), and not for an exposed group, which comes to a constant there
(`not_keepsAt_of_isExposed`). So every chain of a group keeps at a place exactly if none is exposed
there (`keepsAt_chains_iff`).

The reason is that pruning never makes a constant: what is not constant loses members until it is
absent (`constant?_reduce`). So a chain has lost the constants that change nothing for good as soon
as it has anything else, even where the rest of it is absent.
-/

namespace PostFilter.Canonical
open PostFilter.Order

variable {place : Option Place} {joiner : Joiner}

/-- What is left at a place of a clause, if that is present. -/
def prune (place : Option Place) (m : Option Clause) : Option Clause := m.bind (Clause.reduce place)

/-! ### Constants -/

/-- A constant is present everywhere. -/
theorem reduce_of_constant {c : Clause} {value : Bool} (h : c.constant? = some value) :
    c.reduce place = some c := by
  cases c with
  | group g => cases h
  | spell s =>
      rw [Clause.constant?, Spell.constant?] at h
      split at h
      · rename_i hs
        rw [Bool.and_eq_true, Option.isNone_iff_eq_none] at hs
        rw [Clause.reduce, if_pos]
        cases place <;> simp [admitsAt, Place.admits, hs.2]
      · cases h

/-- A chain without constants is what it keeps, if it keeps anything. -/
theorem joinChain_of_nonconstant (negated : Bool) {members : List (Option Clause)}
    (h : ∀ c, some c ∈ members → c.constant? = none) :
    Clause.joinChain joiner negated members =
      if Clause.kept joiner (members.filterMap id) = [] then none
      else some (Clause.ofKept joiner negated (Clause.kept joiner (members.filterMap id))) := by
  rcases joinChain_cases joiner negated members with
    ⟨⟨c, hc, hvalue⟩, -⟩ | ⟨-, ⟨-, ⟨c, hc, hvalue⟩, -⟩ | ⟨hk, -, he⟩ | ⟨hk, he⟩⟩
  · rw [h c hc] at hvalue
    cases hvalue
  · rw [h c hc] at hvalue
    cases hvalue
  · rw [he, if_pos hk]
  · rw [he, if_neg hk]

/-- **What is not constant is nowhere reduced to a constant.** -/
theorem constant?_reduce {c : Clause} (h : Reduced c) (hc : c.constant? = none) :
    ∀ d, c.reduce place = some d → d.constant? = none := by
  induction h with
  | spell s =>
      intro d hd
      rw [Clause.reduce] at hd
      split at hd
      · cases hd; exact hc
      · cases hd
  | @chain joiner cs negated two sorted links members ih =>
      intro d hd
      have hmembers : ∀ e, some e ∈ cs.map (Clause.reduce place) → e.constant? = none := by
        intro e he
        obtain ⟨c, hcs, hce⟩ := List.mem_map.1 he
        exact ih c hcs (links c hcs).1 e hce
      -- A chain becomes constant only through a constant member, and by induction it has none.
      rw [Clause.reduce, reduce_chain, joinChain_of_nonconstant negated hmembers] at hd
      split at hd
      · cases hd
      · cases hd
        exact constant?_ofKept fun e he => ((allReduced_map_reduce place cs).of_mem_kept he).1.1

/-- Reducing a clause leaves it as constant as it was. -/
theorem constant?_eq_of_reduce {c p : Clause} (h : Reduced c) (hp : c.reduce place = some p) :
    p.constant? = c.constant? := by
  cases hc : c.constant? with
  | none => exact constant?_reduce h hc p hp
  | some b =>
      rw [reduce_of_constant hc] at hp
      cases hp
      exact hc

/-- A chain keeps nothing that is reduced to a constant. -/
theorem constant?_of_mem_map_reduce {cs : List Clause}
    (links : ∀ c ∈ cs, IsLink joiner c ∧ Reduced c) {d : Clause}
    (hd : some d ∈ cs.map (Clause.reduce place)) : d.constant? = none := by
  obtain ⟨c, hc, hcd⟩ := List.mem_map.1 hd
  exact constant?_reduce (links c hc).2 (links c hc).1.1 d hcd

/-! ### Negation -/

theorem negateIf_not (c : Clause) (negated : Bool) :
    c.negateIf (!negated) = (c.negateIf negated).negate := by
  cases negated with
  | false => rfl
  | true => exact (negate_negate c).symm

theorem joinChain_not (joiner : Joiner) (negated : Bool) (members : List (Option Clause)) :
    Clause.joinChain joiner (!negated) members =
      (Clause.joinChain joiner negated members).map Clause.negate := by
  have hconstant (value : Bool) :
      Clause.constant (value != !negated) = (Clause.constant (value != negated)).negate := by
    cases value <;> cases negated <;> rfl
  have hkept (cs : List Clause) :
      Clause.ofKept joiner (!negated) cs = (Clause.ofKept joiner negated cs).negate := by
    match cs with
    | [] | _ :: _ :: _ => rfl
    | [c] => exact negateIf_not c negated
  rw [Clause.joinChain, Clause.joinChain]
  dsimp only
  rw [hconstant, hconstant, hkept]
  split
  · rfl
  · split
    · split <;> rfl
    · rfl

theorem nestRun_not (negated : Bool) (rest : List (Option Clause × Joiner))
    (run : List (Option Clause)) (joiner? : Option Joiner) (link : Joiner) :
    Clause.nestRun (!negated) run joiner? link rest =
      (Clause.nestRun negated run joiner? link rest).map Clause.negate := by
  induction rest generalizing run joiner? link with
  | nil => exact joinChain_not _ negated _
  | cons m rest ih =>
      rw [Clause.nestRun.eq_def, Clause.nestRun.eq_def negated]
      cases joiner? with
      | none => exact ih _ _ _
      | some joiner =>
          dsimp only
          split
          · exact ih _ _ _
          · exact ih _ _ _

/-- The opposite of a clause is reduced to the opposite. -/
theorem reduce_negate (c : Clause) :
    c.negate.reduce place = (c.reduce place).map Clause.negate := by
  cases c with
  | spell s =>
      rw [Clause.negate, Clause.reduce, Clause.reduce]
      change (if admitsAt place s.scope = true then _ else _) = _
      split <;> rfl
  | group g =>
      obtain ⟨negated, members⟩ := g
      rw [Clause.negate, Clause.reduce, Clause.reduce, Group.reduce, Group.reduce]
      cases Group.reduceMembers place members with
      | nil => rfl
      | cons m rest => exact nestRun_not negated rest [m.1] none m.2

theorem reduce_negateIf (c : Clause) (negated : Bool) :
    (c.negateIf negated).reduce place = (c.reduce place).map fun d => d.negateIf negated := by
  cases negated with
  | false =>
      change c.reduce place = (c.reduce place).map id
      rw [Option.map_id]
      rfl
  | true => exact reduce_negate c

/-! ### Pruning a chain -/

/-- Clauses that a chain keeps are reduced to the chain of what they are reduced to. -/
theorem reduce_ofKept (negated : Bool) {cs : List Clause} (hne : cs ≠ [])
    (links : ∀ c ∈ cs, IsLink joiner c) (members : ∀ c ∈ cs, Reduced c) :
    (Clause.ofKept joiner negated cs).reduce place =
      Clause.joinChain joiner negated (cs.map (Clause.reduce place)) := by
  match cs with
  | [] => exact absurd rfl hne
  | c :: d :: rest => exact reduce_chain joiner negated (c :: d :: rest)
  | [c] =>
      rw [Clause.ofKept, reduce_negateIf, List.map_singleton]
      cases hc : c.reduce place with
      | none => exact (joinChain_absent joiner negated (by simp)).symm
      | some d =>
          have hnone : d.constant? = none :=
            constant?_reduce (members c (by simp)) (links c (by simp)).1 d hc
          exact (joinChain_singleton joiner negated (reduced_reduce place c d hc) hnone).symm

/-- What a chain keeps, in a group of its own, gives all of itself to a chain with the same
joiner. -/
theorem parts_ofKept {cs : List Clause} (hne : cs ≠ []) (links : ∀ c ∈ cs, IsLink joiner c) :
    Clause.parts joiner (Clause.ofKept joiner false cs) = cs := by
  match cs with
  | [] => exact absurd rfl hne
  | [c] => exact (links c (by simp)).2
  | c :: d :: rest => exact parts_chain (by simp)

/-- The parts of a pruned clause are those of its pruned parts. -/
theorem mem_parts_reduce {c : Clause} (h : Reduced c) (joiner : Joiner) (d : Clause) :
    (∃ p, c.reduce place = some p ∧ d ∈ Clause.parts joiner p) ↔
      ∃ e ∈ Clause.parts joiner c, ∃ p, e.reduce place = some p ∧ d ∈ Clause.parts joiner p := by
  rcases h.parts_cases joiner with hp | ⟨cs, rfl, hp, -, -, links, members⟩
  · rw [hp]
    simp only [List.mem_singleton, exists_eq_left]
  · have hnone : ∀ e, some e ∈ cs.map (Clause.reduce place) → e.constant? = none :=
      fun e => constant?_of_mem_map_reduce fun c hc => ⟨links c hc, members c hc⟩
    have hkept : d ∈ Clause.kept joiner ((cs.map (Clause.reduce place)).filterMap id) ↔
        ∃ e ∈ cs, ∃ p, e.reduce place = some p ∧ d ∈ Clause.parts joiner p := by
      rw [mem_kept]
      constructor
      · rintro ⟨p, hp, -, hd⟩
        obtain ⟨e, he, hep⟩ := List.mem_map.1 hp
        exact ⟨e, he, p, hep, hd⟩
      · rintro ⟨e, he, p, hep, hd⟩
        have hmem : some p ∈ cs.map (Clause.reduce place) := List.mem_map.2 ⟨e, he, hep⟩
        exact ⟨p, hmem, hnone p hmem, hd⟩
    rw [hp, ← hkept, Clause.reduce, reduce_chain, joinChain_of_nonconstant false hnone]
    by_cases hk : Clause.kept joiner ((cs.map (Clause.reduce place)).filterMap id) = []
    · rw [if_pos hk, hk]
      simp
    · rw [if_neg hk]
      have hparts := parts_ofKept hk fun e he =>
        ((allReduced_map_reduce place cs).of_mem_kept he).1
      constructor
      · rintro ⟨p, hp, hd⟩
        cases hp
        rwa [hparts] at hd
      · intro hd
        exact ⟨_, rfl, by rwa [hparts]⟩

theorem mem_prune {members : List (Option Clause)} {p : Clause} :
    some p ∈ members.map (prune place) ↔ ∃ c, some c ∈ members ∧ c.reduce place = some p := by
  rw [List.mem_map]
  constructor
  · rintro ⟨m, hm, hp⟩
    obtain ⟨c, rfl, hc⟩ := Option.bind_eq_some_iff.1 hp
    exact ⟨c, hm, hc⟩
  · rintro ⟨c, hc, hp⟩
    exact ⟨some c, hc, hp⟩

section Chain

variable {members : List (Option Clause)} (h : AllReduced members)
include h

/-- Pruning leaves the constants of a chain alone. -/
theorem hasConstant_prune (place : Option Place) (value : Bool) :
    HasConstant value (members.map (prune place)) ↔ HasConstant value members := by
  constructor
  · rintro ⟨p, hp, hvalue⟩
    obtain ⟨c, hc, hred⟩ := mem_prune.1 hp
    exact ⟨c, hc, (constant?_eq_of_reduce (h c hc) hred).symm.trans hvalue⟩
  · rintro ⟨c, hc, hvalue⟩
    exact ⟨c, mem_prune.2 ⟨c, hc, reduce_of_constant hvalue⟩, hvalue⟩

/-- What a pruned chain keeps is kept by the chain of what it kept before. -/
theorem kept_prune (place : Option Place) (joiner : Joiner) :
    Clause.kept joiner ((members.map (prune place)).filterMap id) =
      Clause.kept joiner (((Clause.kept joiner (members.filterMap id)).map
        (Clause.reduce place)).filterMap id) := by
  -- Both sides are sorted and without repetition, so it is enough that they keep the same.
  refine eq_of_pairwise_before (pairwise_kept _ _) (pairwise_kept _ _) fun d => ?_
  rw [mem_kept, mem_kept]
  constructor
  · rintro ⟨p, hp, hnone, hd⟩
    obtain ⟨c, hc, hred⟩ := mem_prune.1 hp
    have hconst : c.constant? = none :=
      (constant?_eq_of_reduce (h c hc) hred).symm.trans hnone
    obtain ⟨e, he, q, hq, hdq⟩ := (mem_parts_reduce (h c hc) joiner d).1 ⟨p, hred, hd⟩
    have hkept : e ∈ Clause.kept joiner (members.filterMap id) :=
      mem_kept.2 ⟨c, hc, hconst, he⟩
    have hlink := h.of_mem_kept hkept
    have hmem : some q ∈ (Clause.kept joiner (members.filterMap id)).map (Clause.reduce place) :=
      List.mem_map.2 ⟨e, hkept, hq⟩
    exact ⟨q, hmem, constant?_reduce hlink.2 hlink.1.1 q hq, hdq⟩
  · rintro ⟨q, hq, -, hd⟩
    obtain ⟨e, he, heq⟩ := List.mem_map.1 hq
    obtain ⟨c, hc, hconst, hpart⟩ := mem_kept.1 he
    obtain ⟨p, hp, hdp⟩ := (mem_parts_reduce (h c hc) joiner d).2 ⟨e, hpart, q, heq, hd⟩
    have hmem : some p ∈ members.map (prune place) := mem_prune.2 ⟨c, hc, hp⟩
    exact ⟨p, hmem, constant?_reduce (h c hc) hconst p hp, hdp⟩

/-- A chain that keeps something is pruned to what the pruned chain keeps. -/
theorem prune_joinChain_of_kept (place : Option Place) (joiner : Joiner) (negated : Bool)
    (hd : ¬ HasConstant (!joiner.identity) members)
    (hk : Clause.kept joiner (members.filterMap id) ≠ []) :
    prune place (Clause.joinChain joiner negated members) =
      if Clause.kept joiner ((members.map (prune place)).filterMap id) = [] then none
      else some (Clause.ofKept joiner negated
        (Clause.kept joiner ((members.map (prune place)).filterMap id))) := by
  have hlinks : ∀ c ∈ Clause.kept joiner (members.filterMap id), IsLink joiner c ∧ Reduced c :=
    fun c hc => h.of_mem_kept hc
  have hnone : ∀ c, some c ∈ (Clause.kept joiner (members.filterMap id)).map
      (Clause.reduce place) → c.constant? = none :=
    fun c => constant?_of_mem_map_reduce hlinks
  rw [joinChain_of_kept hd hk, prune, Option.bind_some,
    reduce_ofKept negated hk (fun c hc => (hlinks c hc).1) fun c hc => (hlinks c hc).2,
    joinChain_of_nonconstant negated hnone, kept_prune h]

/-- **Pruning a chain gives the chain of its pruned members**, unless that is a constant and the
chain was none. -/
theorem prune_joinChain (place : Option Place) (joiner : Joiner) (negated : Bool) :
    prune place (Clause.joinChain joiner negated members) =
        Clause.joinChain joiner negated (members.map (prune place)) ∨
      (∃ c, Clause.joinChain joiner negated members = some c ∧ c.constant? = none) ∧
        ∃ d, Clause.joinChain joiner negated (members.map (prune place)) = some d ∧
          d.constant?.isSome := by
  have hconstant (value : Bool) :
      prune place (some (.constant value)) = some (.constant value) :=
    reduce_of_constant (constant?_constant value)
  have hdeciding := hasConstant_prune h place (!joiner.identity)
  have hidentity := hasConstant_prune h place joiner.identity
  by_cases hd : HasConstant (!joiner.identity) members
  · rw [joinChain_of_deciding hd, joinChain_of_deciding (hdeciding.2 hd)]
    exact Or.inl (hconstant _)
  by_cases hk : Clause.kept joiner (members.filterMap id) = []
  · have hk' : Clause.kept joiner ((members.map (prune place)).filterMap id) = [] := by
      rw [kept_prune h, hk]
      exact sortDistinct_eq_nil.2 rfl
    by_cases hi : HasConstant joiner.identity members
    · rw [joinChain_of_identity hd hk hi,
        joinChain_of_identity (mt hdeciding.1 hd) hk' (hidentity.2 hi)]
      exact Or.inl (hconstant _)
    · rw [joinChain_of_nothing hd hk hi,
        joinChain_of_nothing (mt hdeciding.1 hd) hk' (mt hidentity.1 hi)]
      exact Or.inl rfl
  -- The chain keeps something, and has forgotten the constants that change nothing. The chain of
  -- the pruned members has not: where it keeps nothing, it comes to such a constant.
  · rw [prune_joinChain_of_kept h place joiner negated hd hk]
    by_cases hk' : Clause.kept joiner ((members.map (prune place)).filterMap id) = []
    · by_cases hi : HasConstant joiner.identity members
      · have hnone : (Clause.ofKept joiner negated
            (Clause.kept joiner (members.filterMap id))).constant? = none :=
          constant?_ofKept fun c hc => (h.of_mem_kept hc).1.1
        refine Or.inr ⟨⟨_, joinChain_of_kept hd hk, hnone⟩,
          _, joinChain_of_identity (mt hdeciding.1 hd) hk' (hidentity.2 hi), ?_⟩
        rw [constant?_constant]
        rfl
      · rw [if_pos hk', joinChain_of_nothing (mt hdeciding.1 hd) hk' (mt hidentity.1 hi)]
        exact Or.inl rfl
    · rw [if_neg hk', joinChain_of_kept (mt hdeciding.1 hd) hk']
      exact Or.inl rfl

end Chain

/-! ### Exposed groups -/

theorem isExposed_iff {place : Place} {g : Group} : g.isExposed place = true ↔
    (∃ c, g.reduce none = some c ∧ c.constant? = none) ∧
      ∃ d, g.reduce (some place) = some d ∧ d.constant?.isSome := by
  rw [Group.isExposed, Bool.and_eq_true, Option.any_eq_true, Option.any_eq_true]
  simp only [Option.isNone_iff_eq_none]

/-- Pruning an exposed group loses the constant that it comes to. -/
theorem not_keepsAt_of_isExposed {place : Place} {g : Group} (h : g.isExposed place = true) :
    ¬ g.KeepsAt place := by
  obtain ⟨⟨c, hc, hnone⟩, d, hd, hsome⟩ := isExposed_iff.1 h
  rw [Group.KeepsAt, hc, hd]
  intro heq
  rw [constant?_reduce (reduced_reduceGroup none g c hc) hnone d heq] at hsome
  cases hsome

theorem memberGroups_chainMembers (joiner : Joiner) : ∀ cs : List Clause,
    Group.memberGroups (Group.chainMembers joiner cs) = cs.flatMap Clause.groups
  | [] => rfl
  | [c] => by
      rw [Group.chainMembers, Group.memberGroups, Group.memberGroups, List.flatMap_singleton,
        List.append_nil]
  | c :: d :: rest => by
      rw [Group.chainMembers, Group.memberGroups, memberGroups_chainMembers joiner (d :: rest)]
      rfl

/-- Where no group is exposed, every group keeps, and so does the clause. -/
theorem IsChained.keepsAt {place : Place} {c : Clause} (hc : IsChained c)
    (h : ∀ g ∈ c.groups, g.isExposed place = false) :
    prune (some place) (c.reduce none) = c.reduce (some place) ∧
      ∀ g ∈ c.groups, g.KeepsAt place := by
  induction hc with
  | spell s => exact ⟨rfl, fun g hg => by cases hg⟩
  | @chain cs joiner negated members ih =>
      rw [Clause.groups, Group.groups, memberGroups_chainMembers, List.forall_mem_cons] at h
      have hin : ∀ c ∈ cs, ∀ g ∈ c.groups, g.isExposed place = false := fun c hc g hg =>
        h.2 g (List.mem_flatMap.2 ⟨c, hc, hg⟩)
      have hmembers : (cs.map (Clause.reduce none)).map (prune (some place)) =
          cs.map (Clause.reduce (some place)) := by
        rw [List.map_map]
        exact List.map_congr_left fun c hc => (ih c hc (hin c hc)).1
      have hself : Group.KeepsAt place ⟨negated, Group.chainMembers joiner cs⟩ := by
        rcases prune_joinChain (allReduced_map_reduce none cs) (some place) joiner negated with
          heq | hexposed
        · rw [hmembers, ← reduce_chain, ← reduce_chain] at heq
          exact heq
        · rw [hmembers, ← reduce_chain, ← reduce_chain, ← isExposed_iff, h.1] at hexposed
          cases hexposed
      refine ⟨hself, ?_⟩
      rw [Clause.groups, Group.groups, memberGroups_chainMembers, List.forall_mem_cons]
      refine ⟨hself, fun g hg => ?_⟩
      obtain ⟨c, hc, hgc⟩ := List.mem_flatMap.1 hg
      exact (ih c hc (hin c hc)).2 g hgc

theorem hasExposed_eq_false {place : Place} {g : Group} :
    g.hasExposed place = false ↔ ∀ h ∈ g.chains, h.isExposed place = false := by
  rw [Group.hasExposed, List.any_eq_false]
  simp only [Bool.not_eq_true]

/-- **Where no chain of it is exposed, a group keeps.** -/
theorem keepsAt_of_hasExposed {place : Place} {g : Group} (h : g.hasExposed place = false) :
    g.KeepsAt place := by
  have hkeeps := ((isChained_regroupGroup g).keepsAt (hasExposed_eq_false.1 h)).1
  rwa [Clause.reduce, Clause.reduce, reduceGroup_regroup, reduceGroup_regroup] at hkeeps

/-- **Every chain of a group keeps exactly if none is exposed.** -/
theorem keepsAt_chains_iff {place : Place} {g : Group} :
    (∀ h ∈ g.chains, h.KeepsAt place) ↔ g.hasExposed place = false := by
  constructor
  · intro hkeeps
    rw [hasExposed_eq_false]
    intro h hh
    exact Bool.eq_false_iff.2 fun hexposed => not_keepsAt_of_isExposed hexposed (hkeeps h hh)
  · intro h
    exact ((isChained_regroupGroup g).keepsAt (hasExposed_eq_false.1 h)).2

end PostFilter.Canonical
