import PostFilter.Proofs.Canonical.Value

/-!
# Canonical form — its value is that of the rule as written

Under a valuation in which `#all` is true, the canonical form of a group at a place evaluates to the
value of the group at that place, and there is none exactly where the group is absent
(`canonical_value`). The value of the group is `Group.value?`, which reshapes nothing; the canonical
form is evaluated by `Group.isTrue`.

A member handed to a chain is *sound* (`Sound`) if it is reduced and, when constant, has the value
it stands for. Chains of sound members are sound, and have the value gathered from their members
(`value?_joinChain`); nesting then follows the members from left to right (`value?_nestRun`).
-/

namespace PostFilter.Canonical
open PostFilter.Order

variable {v : Valuation} {place : Option Place}

/-! ### Reduced clauses have values -/

theorem allInhabited_chainMembers (joiner : Joiner) : ∀ cs : List Clause,
    (∀ c ∈ cs, c.IsInhabited) → Group.AllInhabited (Group.chainMembers joiner cs)
  | [], _ => trivial
  | [_], h => ⟨h _ (by simp), trivial⟩
  | c :: d :: rest, h =>
      ⟨h c (by simp), allInhabited_chainMembers joiner (d :: rest) fun e he =>
        h e (List.mem_cons_of_mem _ he)⟩

theorem Reduced.isInhabited {c : Clause} (h : Reduced c) : c.IsInhabited := by
  induction h with
  | spell s => trivial
  | @chain joiner cs negated two sorted links members ih =>
      refine ⟨?_, allInhabited_chainMembers joiner cs ih⟩
      intro hnil
      rw [← clauses_chainMembers joiner cs, hnil] at two
      exact absurd two (by decide)

theorem Reduced.isSome_value? {c : Clause} (h : Reduced c) : (c.value? v none).isSome := by
  rw [value?_eq_isTrue c h.isInhabited]; rfl

/-- The value of a reduced clause is gathered from what it contributes to a chain. -/
theorem Reduced.value?_parts {c : Clause} (h : Reduced c) (joiner : Joiner) :
    gather joiner ((Clause.parts joiner c).map (Clause.value? v none)) = c.value? v none := by
  rcases h.parts_cases joiner with hp | ⟨cs, rfl, hp, -⟩
  · rw [hp]
    obtain ⟨b, hb⟩ := Option.isSome_iff_exists.1 (h.isSome_value? (v := v))
    rw [List.map_singleton, hb]
    cases joiner <;> cases b <;> rfl
  · rw [hp, value?_chain]
    cases gather joiner _ <;> simp

/-! ### Sound members -/

/-- Whether a constant clause has the value it stands for. -/
def IsFaithful (v : Valuation) (c : Clause) : Prop :=
  ∀ b, c.constant? = some b → c.value? v none = some b

/-- Whether a member, if present, is reduced and faithful. -/
def Sound (v : Valuation) (m : Option Clause) : Prop :=
  ∀ c, m = some c → Reduced c ∧ IsFaithful v c

/-- The value of a member, if both are present. -/
def memberValue (v : Valuation) (m : Option Clause) : Option Bool := m.bind (Clause.value? v none)

theorem sound_joinChain (hv : v .all none none = true) (joiner : Joiner) (negated : Bool)
    {members : List (Option Clause)} (h : ∀ m ∈ members, Sound v m) :
    Sound v (Clause.joinChain joiner negated members) := by
  have hr : AllReduced members := fun c hc => (h (some c) hc c rfl).1
  intro c hc
  refine ⟨reduced_joinChain hr hc, ?_⟩
  have of_constant : ∀ value, IsFaithful v (.constant value) := fun value b hb => by
    rw [constant?_constant] at hb
    rw [value?_constant hv, hb]
  rcases joinChain_cases joiner negated members with
    ⟨-, he⟩ | ⟨-, ⟨-, -, he⟩ | ⟨-, -, he⟩ | ⟨hk, he⟩⟩
  · cases he ▸ hc; exact of_constant _
  · cases he ▸ hc; exact of_constant _
  · cases he ▸ hc
  · cases he ▸ hc
    intro b hb
    rw [constant?_ofKept fun d hd => (hr.of_mem_kept hd).1.1] at hb
    cases hb

/-! ### The value of what a chain comes to -/

theorem value?_ofKept {joiner : Joiner} (negated : Bool) {cs : List Clause}
    (h : ∀ c ∈ cs, Reduced c) :
    (Clause.ofKept joiner negated cs).value? v none =
      (gather joiner (cs.map (Clause.value? v none))).map fun value => value != negated := by
  match cs with
  | [] => exact value?_chain joiner negated []
  | [c] =>
      have hc : Reduced c := h c (by simp)
      obtain ⟨b, hb⟩ := Option.isSome_iff_exists.1 (hc.isSome_value? (v := v))
      rw [Clause.ofKept, value?_negateIf, List.map_singleton, hb]
      cases joiner <;> cases b <;> rfl
  | c :: d :: rest => exact value?_chain joiner negated (c :: d :: rest)

/-- The deciding value occurs among what a chain keeps exactly if it occurs among its members. -/
theorem deciding_mem_kept {joiner : Joiner} {members : List (Option Clause)}
    (h : ∀ m ∈ members, Sound v m)
    (hd : ¬ HasConstant (!joiner.identity) members) :
    some (!joiner.identity) ∈
        (Clause.kept joiner (members.filterMap id)).map (Clause.value? v none) ↔
      some (!joiner.identity) ∈ members.map (memberValue v) := by
  constructor
  · intro hmem
    obtain ⟨d, hdk, hval⟩ := List.mem_map.1 hmem
    obtain ⟨c, hc, -, hdc⟩ := mem_kept.1 hdk
    refine List.mem_map.2 ⟨some c, hc, ?_⟩
    rw [memberValue, Option.bind_some, ← (h _ hc c rfl).1.value?_parts joiner, gather_eq_deciding]
    exact List.mem_map.2 ⟨d, hdc, hval⟩
  · intro hmem
    obtain ⟨m, hm, hval⟩ := List.mem_map.1 hmem
    obtain ⟨c, rfl, hcv⟩ : ∃ c, m = some c ∧ c.value? v none = some (!joiner.identity) :=
      Option.bind_eq_some_iff.1 hval
    -- A member with the deciding value is no constant, or it would have decided the chain.
    have hc : c.constant? = none := by
      cases hc : c.constant? with
      | none => rfl
      | some b =>
          have hb : some b = some (!joiner.identity) := ((h _ hm c rfl).2 b hc).symm.trans hcv
          exact absurd ⟨c, hm, hc.trans hb⟩ hd
    rw [← (h _ hm c rfl).1.value?_parts joiner, gather_eq_deciding] at hcv
    obtain ⟨d, hdc, hdv⟩ := List.mem_map.1 hcv
    exact List.mem_map.2 ⟨d, mem_kept.2 ⟨c, hm, hc, hdc⟩, hdv⟩

/-- Of a chain that keeps nothing and that no constant decides, every member is the constant that
changes nothing. -/
theorem constant?_of_kept_eq_nil {joiner : Joiner} {members : List (Option Clause)}
    (h : ∀ m ∈ members, Sound v m)
    (hd : ¬ HasConstant (!joiner.identity) members)
    (hk : Clause.kept joiner (members.filterMap id) = []) {c : Clause} (hc : some c ∈ members) :
    c.constant? = some joiner.identity := by
  match hconst : c.constant? with
  | some b =>
      have hb : b ≠ !joiner.identity := fun hb =>
        hd ⟨c, hc, hconst.trans (congrArg some hb)⟩
      rw [Bool.eq_not_of_ne hb, Bool.not_not]
  | none =>
      obtain ⟨d, hdc⟩ := List.exists_mem_of_ne_nil _ (parts_ne_nil (h _ hc c rfl).1 joiner)
      have hmem : d ∈ Clause.kept joiner (members.filterMap id) :=
        mem_kept.2 ⟨c, hc, hconst, hdc⟩
      rw [hk] at hmem
      cases hmem

/-- **A chain has the value gathered from its members.** -/
theorem value?_joinChain (hv : v .all none none = true) (joiner : Joiner) (negated : Bool)
    {members : List (Option Clause)} (h : ∀ m ∈ members, Sound v m) :
    memberValue v (Clause.joinChain joiner negated members) =
      (gather joiner (members.map (memberValue v))).map fun value => value != negated := by
  have hr : AllReduced members := fun c hc => (h (some c) hc c rfl).1
  have mem_of {c : Clause} {b : Bool} (hc : some c ∈ members) (hb : c.constant? = some b) :
      some b ∈ members.map (memberValue v) :=
    List.mem_map.2 ⟨some c, hc, (h _ hc c rfl).2 b hb⟩
  rcases joinChain_cases joiner negated members with
    ⟨⟨c, hc, hconst⟩, he⟩ | ⟨hd, ⟨hk, ⟨c, hc, hconst⟩, he⟩ | ⟨hk, hi, he⟩ | ⟨hk, he⟩⟩
  · rw [he, gather_eq_deciding.2 (mem_of hc hconst)]
    exact value?_constant hv _
  · have hno : some (!joiner.identity) ∉ members.map (memberValue v) := by
      rw [← deciding_mem_kept h hd, hk]
      exact List.not_mem_nil
    rw [he, gather_eq_identity hno (mem_of hc hconst) rfl]
    exact value?_constant hv _
  · -- No member is present, for it would be constant.
    have hall : ∀ m ∈ members, m = none := fun m hm => by
      cases m with
      | none => rfl
      | some c => exact absurd ⟨c, hm, constant?_of_kept_eq_nil h hd hk hm⟩ hi
    rw [he, List.eq_replicate_of_mem hall, List.map_replicate]
    simp [gather, memberValue]
  · rw [he, memberValue, Option.bind_some, value?_ofKept negated fun d hd => (hr.of_mem_kept hd).2]
    congr 1
    -- Either both gather the deciding value, or both have a value and gather the other one.
    by_cases hdec : some (!joiner.identity) ∈ members.map (memberValue v)
    · rw [gather_eq_deciding.2 hdec, gather_eq_deciding.2 ((deciding_mem_kept h hd).2 hdec)]
    · obtain ⟨d, hdk⟩ := List.exists_mem_of_ne_nil _ hk
      obtain ⟨c, hc, -, -⟩ := mem_kept.1 hdk
      rw [gather_eq_identity (mt (deciding_mem_kept h hd).1 hdec)
          (List.mem_map_of_mem hdk) (hr.of_mem_kept hdk).2.isSome_value?,
        gather_eq_identity hdec (List.mem_map_of_mem hc) (hr c hc).isSome_value?]

/-! ### Nesting -/

/-- One more member in a chain of values. -/
theorem gather_push (joiner : Joiner) (a : Option Bool) (values : List (Option Bool)) :
    gather joiner (a :: values) = joiner.applyPresent (gather joiner values) a := by
  have h := foldl_applyPresent joiner [a] (gather joiner values)
  rw [List.foldl_cons, List.foldl_nil] at h
  rw [h]
  -- What has been gathered stands for the values that it was gathered from.
  have hd : gather joiner values = some (!joiner.identity) ↔ some (!joiner.identity) ∈ values :=
    gather_eq_deciding
  cases joiner <;> simp only [gather, List.mem_cons, List.mem_nil_iff, or_false] <;>
    split_ifs <;> simp_all [Joiner.identity]

theorem gather_reverse (joiner : Joiner) (values : List (Option Bool)) :
    gather joiner values.reverse = gather joiner values := by
  simp only [gather, List.mem_reverse]

theorem gather_singleton (joiner : Joiner) (a : Option Bool) : gather joiner [a] = a := by
  cases joiner <;> rcases a with _ | (_ | _) <;> rfl

/-- Nesting behind a run comes to the value of the members behind what the run comes to. The run is
one member as long as its joiner is not known. -/
theorem value?_nestRun (hv : v .all none none = true) (negated : Bool) :
    ∀ (rest : List Member) (run : List (Option Clause)) (joiner? : Option Joiner) (link : Joiner),
    (joiner? = none → ∃ m, run = [m]) → (∀ m ∈ run, Sound v m) →
    (∀ m ∈ rest, Sound v (m.clause.reduce place)) →
    (∀ m ∈ rest, memberValue v (m.clause.reduce place) = m.clause.value? v place) →
    memberValue v
        (Clause.nestRun negated run joiner? link (Group.reduceMembers place rest)) =
      (Group.foldValue? v place (gather (joiner?.getD .or) (run.map (memberValue v))) link
        rest).map fun value => value != negated := by
  intro rest
  induction rest with
  | nil =>
      intro run joiner? link _ hrun _ _
      rw [Group.reduceMembers, Clause.nestRun, Group.foldValue?,
        value?_joinChain hv _ _ fun m hm => hrun m (List.mem_reverse.1 hm), List.map_reverse,
        gather_reverse]
  | cons m rest ih =>
      obtain ⟨c, next⟩ := m
      intro run joiner? link hone hrun hsound hvalue
      have hc : Sound v (c.reduce place) := hsound ⟨c, next⟩ (by simp)
      have hcv : memberValue v (c.reduce place) = c.value? v place := hvalue ⟨c, next⟩ (by simp)
      have hrest : ∀ m ∈ rest, Sound v (m.clause.reduce place) :=
        fun m hm => hsound m (List.mem_cons_of_mem _ hm)
      have hrestv : ∀ m ∈ rest, memberValue v (m.clause.reduce place) = m.clause.value? v place :=
        fun m hm => hvalue m (List.mem_cons_of_mem _ hm)
      -- The run goes on: its values gathered with `link` are those gathered before.
      have go (hg : gather link (run.map (memberValue v)) =
          gather (joiner?.getD .or) (run.map (memberValue v))) :
          memberValue v (Clause.nestRun negated (c.reduce place :: run) (some link) next
              (Group.reduceMembers place rest)) =
            (Group.foldValue? v place (gather (joiner?.getD .or) (run.map (memberValue v))) link
              (⟨c, next⟩ :: rest)).map fun value => value != negated := by
        rw [ih _ (some link) next (by simp) (List.forall_mem_cons.2 ⟨hc, hrun⟩) hrest hrestv,
          Option.getD_some, List.map_cons, hcv, gather_push, hg, Group.foldValue?]
      rw [Group.reduceMembers]
      cases joiner? with
      | none =>
          obtain ⟨m, rfl⟩ := hone rfl
          exact go (by rw [List.map_singleton, gather_singleton, gather_singleton])
      | some joiner =>
          rw [Clause.nestRun]
          split
          · rename_i hj
            exact go (by rw [hj]; rfl)
          · -- The run ends here, and is the first member of the next one.
            have hchain : ∀ m ∈ run.reverse, Sound v m :=
              fun m hm => hrun m (List.mem_reverse.1 hm)
            have hnew : ∀ m ∈ [c.reduce place, Clause.joinChain joiner false run.reverse],
                Sound v m :=
              List.forall_mem_cons.2
                ⟨hc, List.forall_mem_singleton.2 (sound_joinChain hv joiner false hchain)⟩
            rw [ih _ (some link) next (by simp) hnew hrest hrestv, Option.getD_some, List.map_cons,
              List.map_singleton, hcv, gather_push, gather_singleton,
              value?_joinChain hv joiner false hchain, List.map_reverse, gather_reverse,
              Group.foldValue?]
            simp

/-! ### Reduction -/

mutual

theorem sound_reduce (hv : v .all none none = true) : ∀ c : Clause,
    (∀ s ∈ c.spells, s.kind = .all → s.scope = none → v .all s.argument none = true) →
    Sound v (c.reduce place)
  | .spell s, h => by
      intro d hd
      rw [Clause.reduce] at hd
      split at hd
      · cases hd
        refine ⟨.spell s, fun b hb => ?_⟩
        rw [Clause.constant?, Spell.constant?] at hb
        split at hb
        · rename_i hs
          rw [Bool.and_eq_true, decide_eq_true_iff, Option.isNone_iff_eq_none] at hs
          cases hb
          have hs' := h s (by simp [Clause.spells]) hs.1 hs.2
          simp [Clause.value?, admitsAt, Valuation.ofSpell, hs.1, hs.2, hs']
        · cases hb
      · cases hd
  | .group ⟨negated, members⟩, h => by
      rw [Clause.spells, Group.spells] at h
      exact nest_induction (P := Sound v) (by rintro _ ⟨⟩)
        (fun joiner negated _ => sound_joinChain hv joiner negated) negated _
        (sound_reduceMembers hv members h)

theorem sound_reduceMembers (hv : v .all none none = true) : ∀ members : List Member,
    (∀ s ∈ Group.memberSpells members, s.kind = .all → s.scope = none →
      v .all s.argument none = true) →
    ∀ m ∈ Group.reduceMembers place members, Sound v m.1
  | [], _, m, hm => by cases hm
  | ⟨c, joiner⟩ :: rest, h, m, hm => by
      rw [Group.memberSpells] at h
      rcases List.mem_cons.1 hm with rfl | hm
      · exact sound_reduce hv c fun s hs => h s (List.mem_append_left _ hs)
      · exact sound_reduceMembers hv rest (fun s hs => h s (List.mem_append_right _ hs)) m hm

end

theorem mem_reduceMembers : ∀ {members : List Member} {m : Member}, m ∈ members →
    (m.clause.reduce place, m.joiner) ∈ Group.reduceMembers place members
  | ⟨c, joiner⟩ :: rest, m, h => by
      rcases List.mem_cons.1 h with rfl | h
      · exact List.mem_cons_self
      · exact List.mem_cons_of_mem _ (mem_reduceMembers h)

mutual

/-- What a clause is reduced to has the value of the clause. -/
theorem value?_reduce (hv : v .all none none = true) : ∀ c : Clause,
    (∀ s ∈ c.spells, s.kind = .all → s.scope = none → v .all s.argument none = true) →
    memberValue v (c.reduce place) = c.value? v place
  | .spell s, _ => by
      rw [Clause.reduce, Clause.value?]
      split
      · simp [memberValue, Clause.value?, admitsAt]
      · rfl
  | .group ⟨negated, members⟩, h => by
      rw [Clause.spells, Group.spells] at h
      have hsound : ∀ m ∈ members, Sound v (m.clause.reduce place) :=
        fun m hm => sound_reduceMembers hv members h _ (mem_reduceMembers hm)
      have hvalue := value?_reduceMembers hv members h
      match members with
      | [] => rfl
      | ⟨c, link⟩ :: rest =>
          have hc : Sound v (c.reduce place) := hsound ⟨c, link⟩ (by simp)
          have hcv : memberValue v (c.reduce place) = c.value? v place :=
            hvalue ⟨c, link⟩ (by simp)
          refine (value?_nestRun hv negated rest [c.reduce place] none link (fun _ => ⟨_, rfl⟩)
            (List.forall_mem_singleton.2 hc)
            (fun m hm => hsound m (List.mem_cons_of_mem _ hm))
            fun m hm => hvalue m (List.mem_cons_of_mem _ hm)).trans ?_
          rw [Option.getD_none, List.map_singleton, gather_singleton, hcv, Clause.value?,
            Group.value?, Group.foldValue?, applyPresent_none_left]

theorem value?_reduceMembers (hv : v .all none none = true) : ∀ members : List Member,
    (∀ s ∈ Group.memberSpells members, s.kind = .all → s.scope = none →
      v .all s.argument none = true) →
    ∀ m ∈ members, memberValue v (m.clause.reduce place) = m.clause.value? v place
  | [], _, m, hm => by cases hm
  | ⟨c, joiner⟩ :: rest, h, m, hm => by
      rw [Group.memberSpells] at h
      rcases List.mem_cons.1 hm with rfl | hm
      · exact value?_reduce hv c fun s hs => h s (List.mem_append_left _ hs)
      · exact value?_reduceMembers hv rest (fun s hs => h s (List.mem_append_right _ hs)) m hm

end

/-! ### Absence -/

theorem applyPresent_eq_none {joiner : Joiner} {a b : Option Bool} :
    joiner.applyPresent a b = none ↔ a = none ∧ b = none := by
  cases a <;> cases b <;> simp [Joiner.applyPresent]

mutual

/-- A clause is absent where no scope of its spells applies. -/
theorem value?_eq_none_iff : ∀ c : Clause,
    c.value? v place = none ↔ ∀ s ∈ c.spells, admitsAt place s.scope = false
  | .spell s => by
      rw [Clause.value?, Clause.spells, List.forall_mem_singleton]
      split <;> simp_all
  | .group ⟨negated, members⟩ => by
      rw [Clause.value?, Group.value?, Option.map_eq_none_iff, foldValue?_eq_none_iff,
        Clause.spells, Group.spells]
      exact and_iff_right rfl

theorem foldValue?_eq_none_iff : ∀ (members : List Member) (found : Option Bool) (link : Joiner),
    Group.foldValue? v place found link members = none ↔
      found = none ∧ ∀ s ∈ Group.memberSpells members, admitsAt place s.scope = false
  | [], found, link => by simp [Group.foldValue?, Group.memberSpells]
  | ⟨c, joiner⟩ :: rest, found, link => by
      rw [Group.foldValue?, foldValue?_eq_none_iff rest, applyPresent_eq_none, value?_eq_none_iff c,
        Group.memberSpells, List.forall_mem_append, and_assoc]

end

/-! ### The canonical form -/

theorem value?_asRoot (c : Clause) : c.asRoot.value? v place = c.value? v place := by
  have single (c : Clause) : (Group.single c).value? v place = c.value? v place := by
    rw [Group.single, Group.chain, Group.chainMembers, Group.value?, Group.foldValue?,
      Group.foldValue?, applyPresent_none_left]
    simp
  cases c with
  | spell s => exact single _
  | group g =>
      obtain ⟨negated, members⟩ := g
      cases negated with
      | true => exact single _
      | false => rfl

theorem isInhabited_asRoot {c : Clause} (h : c.IsInhabited) : c.asRoot.IsInhabited := by
  match c with
  | .spell s => exact ⟨by simp [Group.chainMembers], trivial, trivial⟩
  | .group ⟨true, members⟩ => exact ⟨by simp [Group.chainMembers], h, trivial⟩
  | .group ⟨false, members⟩ => exact h

theorem isTrue_asRoot {c : Clause} (h : Reduced c) :
    some (c.asRoot.isTrue v.ofSpell) = c.value? v none := by
  rw [← valueGroup?_eq_isTrue _ (isInhabited_asRoot h.isInhabited), value?_asRoot]

/-- **A group has no canonical form exactly where no scope of its spells applies.** -/
theorem canonical?_eq_none_iff (g : Group) (place : Option Place) :
    g.canonical? place = none ↔ ∀ s ∈ g.spells, admitsAt place s.scope = false := by
  -- Presence is told by a value, and any valuation with `#all` true will do.
  let v : Valuation := fun _ _ _ => true
  have hvalue : memberValue v (g.reduce place) = g.value? v place :=
    value?_reduce rfl (.group g) fun _ _ _ _ => rfl
  have habsent : g.value? v place = none ↔ ∀ s ∈ g.spells, admitsAt place s.scope = false :=
    value?_eq_none_iff (.group g)
  rw [← habsent, ← hvalue, Group.canonical?, Option.map_eq_none_iff]
  cases hc : g.reduce place with
  | none => exact iff_of_true rfl rfl
  | some c =>
      have hs := (reduced_reduceGroup place g c hc).isSome_value? (v := v)
      refine iff_of_false nofun fun hnone => ?_
      rw [show c.value? v none = none from hnone] at hs
      cases hs

/-- **Canonicalization preserves meaning.** At any place, and under any valuation in which `#all` is
true, the group is absent exactly where no scope of its spells applies; it has a canonical form
exactly where it is not absent; and the canonical form evaluates to the value of the group. Without
a place, and if no group in it lacks members, both evaluate alike. -/
theorem canonical_value (g : Group) (place : Option Place) (v : Valuation) (hv : v.HasAllTrue g) :
    (g.value? v place = none ↔ ∀ s ∈ g.spells, admitsAt place s.scope = false) ∧
    (g.canonical? place = none ↔ g.value? v place = none) ∧
    (∀ t, g.canonical? place = some t → g.value? v place = some (t.isTrue v.ofSpell)) ∧
    (g.IsInhabited → ∃ t, g.canonical? none = some t ∧
      t.isTrue v.ofSpell = g.isTrue v.ofSpell) := by
  have hvalue (place : Option Place) : memberValue v (g.reduce place) = g.value? v place :=
    value?_reduce hv.1 (.group g) hv.2
  have hsome (place : Option Place) (t : Group) (ht : g.canonical? place = some t) :
      g.value? v place = some (t.isTrue v.ofSpell) := by
    obtain ⟨c, hc, rfl⟩ := Option.map_eq_some_iff.1 ht
    rw [isTrue_asRoot (reduced_reduceGroup place g c hc), ← hvalue, hc]
    rfl
  have habsent : g.value? v place = none ↔ ∀ s ∈ g.spells, admitsAt place s.scope = false :=
    value?_eq_none_iff (.group g)
  refine ⟨habsent, (canonical?_eq_none_iff g place).trans habsent.symm, hsome place, fun hg => ?_⟩
  have hg' := valueGroup?_eq_isTrue (v := v) g hg
  match ht : g.canonical? none with
  | some t => exact ⟨t, rfl, Option.some.inj ((hsome none t ht).symm.trans hg')⟩
  | none =>
      rw [Group.canonical?, Option.map_eq_none_iff] at ht
      rw [← hvalue, ht] at hg'
      cases hg'

/-- `!(#op & #all | !#all)` is `!#op`, which a valuation with nothing but `#all` makes true. -/
theorem canonical_value_of_mixed :
    Valuation.HasAllTrue (fun kind _ _ => kind == .all) ⟨true, [⟨.spell { kind := .op }, .and⟩,
      ⟨.constant true, .or⟩, ⟨.constant false, .or⟩]⟩ ∧
    ∃ t, Group.canonical? none ⟨true, [⟨.spell { kind := .op }, .and⟩,
      ⟨.constant true, .or⟩, ⟨.constant false, .or⟩]⟩ = some t ∧
      t.isTrue (Valuation.ofSpell fun kind _ _ => kind == .all) = true := by
  have hv : Valuation.HasAllTrue (fun kind _ _ => kind == .all) ⟨true,
      [⟨.spell { kind := .op }, .and⟩, ⟨.constant true, .or⟩, ⟨.constant false, .or⟩]⟩ :=
    ⟨rfl, fun s _ hs _ => rfl⟩
  obtain ⟨t, ht, htrue⟩ := (canonical_value _ none _ hv).2.2.2
    ⟨List.cons_ne_nil _ _, trivial, trivial, trivial, trivial⟩
  exact ⟨hv, t, ht, htrue.trans (by decide)⟩

end PostFilter.Canonical
