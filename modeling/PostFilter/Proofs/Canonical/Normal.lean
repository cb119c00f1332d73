import PostFilter.Clause.Normal
import PostFilter.Proofs.Canonical.Fixpoint

/-!
# Canonical form — what it looks like

Every canonical form meets the conditions of `Group.IsCanonical` (`isCanonical_canonical?`). The
groups in a reduced clause are chains of links, and so tidy and of several members
(`Reduced.isTidy`); none of their members is constant, and so no spell in them is
(`Reduced.constant?_spells`). What a canonical form has to do with the group that it was made of is
the spells: those that were written, their opposites, and constants.
-/

namespace PostFilter.Canonical
open PostFilter.Order

variable {place : Option Place} {joiner : Joiner} {c : Clause}

/-! ### Groups -/

theorem joiner?_chain {negated : Bool} {cs : List Clause} (two : 2 ≤ cs.length) :
    Group.joiner? ⟨negated, Group.chainMembers joiner cs⟩ = some joiner := by
  match cs, two with
  | [_, _], _ | _ :: _ :: _ :: _, _ => rfl

theorem joiner_getLast?_chainMembers (joiner : Joiner) : ∀ cs : List Clause,
    ∀ m ∈ (Group.chainMembers joiner cs).getLast?, m.joiner = .or
  | [], m, hm => by cases hm
  | [c], m, hm => by
      cases hm
      rfl
  | [c, d], m, hm => by
      cases hm
      rfl
  | c :: d :: e :: rest, m, hm => by
      rw [Group.chainMembers, Group.chainMembers, List.getLast?_cons_cons] at hm
      exact joiner_getLast?_chainMembers joiner (d :: e :: rest) m hm

/-- A chain of links is tidy. -/
theorem isTidy_chain {negated : Bool} {cs : List Clause} (two : 2 ≤ cs.length)
    (sorted : cs.Pairwise Before) (links : ∀ c ∈ cs, IsLink joiner c) :
    Group.IsTidy ⟨negated, Group.chainMembers joiner cs⟩ where
  joined := ⟨joiner, (joins_chainMembers joiner cs).joiners⟩
  ended := joiner_getLast?_chainMembers joiner cs
  increasing := by
    rw [Group.clauses, clauses_chainMembers]
    exact sorted
  opened := by
    rintro ⟨_, members⟩ hmem rfl hjoiner
    rw [Group.clauses, clauses_chainMembers] at hmem
    rw [joiner?_chain two] at hjoiner
    have hparts := (links _ hmem).2
    -- The chain would have opened an un-negated group with its own joiner.
    match members with
    | [] | [_] => cases hjoiner
    | m :: n :: rest =>
        rw [Clause.parts, if_pos (Option.some.inj hjoiner)] at hparts
        exact absurd (congrArg List.length hparts) (by simp)

/-- The group of one clause is tidy, unless that is a group which it could open. -/
theorem isTidy_single (h : ∀ members, c ≠ .group ⟨false, members⟩) : (Group.single c).IsTidy where
  joined := ⟨.or, by rintro _ ⟨⟩⟩
  ended := by rintro _ ⟨⟩; rfl
  increasing := List.pairwise_singleton _ _
  opened := by
    rintro ⟨_, members⟩ hmem rfl
    exact absurd (List.mem_singleton.1 hmem).symm (h members)

/-- Every group in a reduced clause has several members and is tidy. -/
theorem Reduced.isTidy (h : Reduced c) : ∀ g ∈ c.groups, 2 ≤ g.members.length ∧ g.IsTidy := by
  induction h with
  | spell s => exact fun g hg => by cases hg
  | @chain joiner cs negated two sorted links members ih =>
      rw [Clause.groups, Group.groups, memberGroups_chainMembers, List.forall_mem_cons]
      refine ⟨⟨?_, isTidy_chain two sorted links⟩, fun g hg => ?_⟩
      · rwa [← List.length_map Member.clause, clauses_chainMembers]
      · obtain ⟨d, hd, hgd⟩ := List.mem_flatMap.1 hg
        exact ih d hd g hgd

/-! ### Spells -/

/-- No spell in a reduced clause is constant, unless the clause is. -/
theorem Reduced.constant?_spells (h : Reduced c) (hc : c.constant? = none) :
    AllSpells (fun s => s.constant? = none) c := by
  induction h with
  | spell s => exact fun t ht => List.mem_singleton.1 ht ▸ hc
  | @chain joiner cs negated two sorted links members ih =>
      exact allSpells_chain.2 fun d hd => ih d hd (links d hd).1

/-- Whether a spell is one of the given spells or the opposite of one, or else a constant. -/
def ComesFrom (spells : List Spell) (s : Spell) : Prop :=
  s ∈ spells ∨ s.negate ∈ spells ∨ ∃ value, s = Spell.constant value

theorem isStable_comesFrom (spells : List Spell) : IsStable (ComesFrom spells) where
  constant value := Or.inr (Or.inr ⟨value, rfl⟩)
  negate s h := by
    have hnegate : s.negate.negate = s := by simp [Spell.negate]
    rcases h with h | h | ⟨value, rfl⟩
    · exact Or.inr (Or.inl (hnegate.symm ▸ h))
    · exact Or.inl h
    · exact Or.inr (Or.inr ⟨!value, rfl⟩)

/-! ### Outermost groups -/

theorem spells_single (c : Clause) : (Group.single c).spells = c.spells := List.append_nil _

theorem innerGroups_single (c : Clause) : (Group.single c).innerGroups = c.groups :=
  List.append_nil _

theorem spells_asRoot (c : Clause) : c.asRoot.spells = c.spells := by
  match c with
  | .spell s => rfl
  | .group ⟨true, members⟩ => exact spells_single _
  | .group ⟨false, members⟩ => rfl

/-- The outermost group of a reduced clause meets the conditions on groups. -/
theorem Reduced.isTidy_asRoot (h : Reduced c) :
    (∀ g ∈ c.asRoot.innerGroups, 2 ≤ g.members.length) ∧ ∀ g ∈ c.asRoot.groups, g.IsTidy := by
  have hsingle (hc : ∀ members, c ≠ .group ⟨false, members⟩) :
      (∀ g ∈ (Group.single c).innerGroups, 2 ≤ g.members.length) ∧
        ∀ g ∈ (Group.single c).groups, g.IsTidy := by
    have hgroups : (Group.single c).groups = Group.single c :: (Group.single c).innerGroups := rfl
    rw [hgroups, innerGroups_single, List.forall_mem_cons]
    exact ⟨fun g hg => (h.isTidy g hg).1, isTidy_single hc, fun g hg => (h.isTidy g hg).2⟩
  match c with
  | .spell s => exact hsingle nofun
  | .group ⟨true, members⟩ => exact hsingle nofun
  | .group ⟨false, members⟩ =>
      exact ⟨fun g hg => (h.isTidy g (List.mem_cons_of_mem _ hg)).1, fun g hg => (h.isTidy g hg).2⟩

theorem Reduced.root_asRoot (h : Reduced c) :
    c.asRoot.negated = false ∧ ((∃ s, c.asRoot = .single (.spell s)) ∨
      (∃ members, c.asRoot = .single (.group ⟨true, members⟩)) ∨ 2 ≤ c.asRoot.members.length) := by
  match c with
  | .spell s => exact ⟨rfl, Or.inl ⟨s, rfl⟩⟩
  | .group ⟨true, members⟩ => exact ⟨rfl, Or.inr (Or.inl ⟨members, rfl⟩)⟩
  | .group ⟨false, members⟩ =>
      exact ⟨rfl, Or.inr (Or.inr (h.isTidy _ (List.mem_cons_self ..)).1)⟩

/-- **The canonical form of a group is canonical.** -/
theorem isCanonical_canonical? {g t : Group} (h : g.canonical? place = some t) :
    t.IsCanonical place g := by
  obtain ⟨c, hc, rfl⟩ := Option.map_eq_some_iff.1 h
  have hreduced : Reduced c := reduced_reduceGroup place g c hc
  have hcomes : AllSpells (ComesFrom g.spells) c :=
    allSpells_reduce (isStable_comesFrom g.spells) (.group g) (fun _ hs _ => Or.inl hs) c hc
  exact {
    positive := hreduced.root_asRoot.1
    root := hreduced.root_asRoot.2
    several := hreduced.isTidy_asRoot.1
    tidy := hreduced.isTidy_asRoot.2
    spells := by
      rw [spells_asRoot]
      exact fun s hs => ⟨isAdmitted_reduce (c := .group g) hc s hs, hcomes s hs⟩
    constants := by
      rw [spells_asRoot]
      intro s hs hkind hscope
      have hs' : s.constant? = some (!s.negated) := by simp [Spell.constant?, hkind, hscope]
      cases hconstant : c.constant? with
      | none =>
          rw [hreduced.constant?_spells hconstant s hs] at hs'
          cases hs'
      | some value =>
          obtain rfl := eq_constant_of_reduce hc hconstant
          obtain rfl := List.mem_singleton.1 hs
          exact ⟨value, rfl, rfl⟩ }

/-- `#op | (#sage | #op[a]) & !(#sage & #img & #sage)`, at board `b`. -/
theorem isCanonical_canonical?_of_nested :
    let op : Clause := .spell { kind := .op }
    let sage : Clause := .spell { kind := .sage }
    let elsewhere : Clause := .spell { kind := .op, scope := some ⟨"a", .anywhere⟩ }
    let img : Clause := .spell { kind := .img }
    let g : Group := ⟨false, [⟨op, .or⟩, ⟨.group (.chain .or [sage, elsewhere]), .and⟩,
      ⟨.group ⟨true, Group.chainMembers .and [sage, img, sage]⟩, .or⟩]⟩
    let b : Place := { board := some "b" }
    ∃ t, g.canonical? (some b) = some t ∧ t.defaultText = "(#sage | #op) & !(#img & #sage)" ∧
      t.IsCanonical (some b) g := by
  intro op sage elsewhere img g b
  let either : Clause := .group (.chain .or [sage, op])
  let neither : Clause := .group ⟨true, Group.chainMembers .and [img, sage]⟩
  let t : Group := .chain .and [either, neither]
  have hsage : Clause.joinChain .or false [some sage, none] = some sage :=
    joinChain_of_sorted [sage] (by decide) (by decide) (List.cons_ne_nil _ _)
      fun _ => Iff.rfl
  have heither : Clause.joinChain .or false [some op, some sage] = some either :=
    joinChain_of_sorted [sage, op] (by decide) (by decide) (List.cons_ne_nil _ _)
      fun _ => (List.Perm.swap sage op []).mem_iff
  have hneither : Clause.joinChain .and true [some sage, some img, some sage] = some neither :=
    joinChain_of_sorted [img, sage] (by decide) (by decide) (List.cons_ne_nil _ _)
      (by simp [sage, img, Clause.parts])
  have hboth : Clause.joinChain .and false [some either, some neither] = some (.group t) :=
    joinChain_of_sorted [either, neither] (by decide) (by decide) (List.cons_ne_nil _ _)
      fun _ => Iff.rfl
  have hreduce : g.reduce (some b) = some (.group t) :=
    calc g.reduce (some b)
      _ = Clause.joinChain .and false [Clause.joinChain .or false [some op,
            Clause.joinChain .or false [some sage, none]],
            Clause.joinChain .and true [some sage, some img, some sage]] := rfl
      _ = some (.group t) := by rw [hsage, heither, hneither, hboth]
  have ht : g.canonical? (some b) = some t := by rw [Group.canonical?, hreduce]; rfl
  exact ⟨t, ht, by decide +kernel, isCanonical_canonical? ht⟩

end PostFilter.Canonical
