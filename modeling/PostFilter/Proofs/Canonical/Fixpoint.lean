import PostFilter.Clause.Printer
import PostFilter.Proofs.Canonical.Pruning

/-!
# Canonical form — it is its own canonical form

A reduced clause whose spells are all admitted at a place is left as it is there (`reduce_eq_self`).
Reduction makes no spells but constants and opposites of what it is given (`allSpells_reduce`), so
what it gives is admitted at the place; and reducing once more changes nothing (`reduce_reduce`).

A group that comes to a constant comes to `#all` or `!#all` and nothing more
(`eq_constant_of_reduce`). So the outermost group of a canonical form comes to the clause that it
was made of (`reduce_asRoot`), at the place and, since all its spells apply everywhere where none is
left aside, without a place (`canonical?_canonical?`).
-/

namespace PostFilter.Canonical
open PostFilter.Order

variable {place : Option Place}

/-! ### Spells of clauses -/

theorem memberSpells_chainMembers (joiner : Joiner) : ∀ cs : List Clause,
    Group.memberSpells (Group.chainMembers joiner cs) = cs.flatMap Clause.spells
  | [] => rfl
  | [_] => rfl
  | c :: d :: rest => by
      rw [Group.chainMembers, Group.memberSpells, memberSpells_chainMembers joiner (d :: rest)]
      rfl

theorem mem_memberSpells {m : Member} {s : Spell} (hs : s ∈ m.clause.spells) :
    ∀ {members : List Member}, m ∈ members → s ∈ Group.memberSpells members
  | ⟨c, j⟩ :: rest, hm => by
      rw [Group.memberSpells, List.mem_append]
      rcases List.mem_cons.1 hm with rfl | hm
      · exact Or.inl hs
      · exact Or.inr (mem_memberSpells hs hm)

/-- Whether every spell of a clause has the property. -/
def AllSpells (P : Spell → Prop) (c : Clause) : Prop := ∀ s ∈ c.spells, P s

/-- Whether every spell of a clause applies at the place. -/
def IsAdmitted (place : Option Place) (c : Clause) : Prop :=
  AllSpells (fun s => admitsAt place s.scope = true) c

theorem isAdmitted_none (c : Clause) : IsAdmitted none c := fun _ _ => rfl

theorem allSpells_chain {P : Spell → Prop} {joiner : Joiner} {negated : Bool} {cs : List Clause} :
    AllSpells P (.group ⟨negated, Group.chainMembers joiner cs⟩) ↔ ∀ c ∈ cs, AllSpells P c := by
  rw [AllSpells, Clause.spells, Group.spells, memberSpells_chainMembers]
  simp only [AllSpells, List.mem_flatMap]
  exact ⟨fun h c hc s hs => h s ⟨c, hc, hs⟩, fun h s ⟨c, hc, hs⟩ => h c hc s hs⟩

/-! ### Reduced clauses -/

/-- A chain keeps links in strictly increasing order as they are. -/
theorem kept_eq_self {joiner : Joiner} {cs : List Clause} (sorted : cs.Pairwise Before)
    (links : ∀ c ∈ cs, IsLink joiner c) : Clause.kept joiner cs = cs := by
  have hfilter : cs.filter (fun c => c.constant?.isNone) = cs :=
    List.filter_eq_self.2 fun c hc => by rw [(links c hc).1]; rfl
  have hparts : cs.flatMap (Clause.parts joiner) = cs := by
    rw [List.flatMap_congr fun c hc => (links c hc).2, List.flatMap_singleton']
  rw [Clause.kept, hfilter, hparts, sortDistinct_eq_self sorted]

/-- **A reduced clause whose spells all apply is its own canonical form.** -/
theorem reduce_eq_self {c : Clause} (h : Reduced c) (hplace : IsAdmitted place c) :
    c.reduce place = some c := by
  induction h with
  | spell s => rw [Clause.reduce, if_pos (hplace s (List.mem_singleton_self s))]
  | @chain joiner cs negated two sorted links members ih =>
      rw [IsAdmitted, allSpells_chain] at hplace
      have hreduce : cs.map (Clause.reduce place) = cs.map some :=
        List.map_congr_left fun c hc => ih c hc (hplace c hc)
      have hpresent : (cs.map some).filterMap id = cs := by
        rw [List.filterMap_map, Function.id_comp, List.filterMap_some]
      have hnonconstant : ∀ c, some c ∈ cs.map some → c.constant? = none := by
        intro c hc
        obtain ⟨d, hd, he⟩ := List.mem_map.1 hc
        cases he
        exact (links c hd).1
      rw [Clause.reduce, reduce_chain, hreduce, joinChain_of_nonconstant negated hnonconstant,
        hpresent, kept_eq_self sorted links]
      match cs, two with
      | d :: e :: rest, _ => rfl

/-! ### What reduction gives -/

/-- What holds of constants, and of the opposites of spells that it holds of. -/
structure IsStable (P : Spell → Prop) : Prop where
  constant : ∀ value, P (Spell.constant value)
  negate : ∀ s, P s → P s.negate

theorem isStable_admitsAt (place : Option Place) :
    IsStable fun s => admitsAt place s.scope = true where
  constant value := by cases place <;> rfl
  negate _ h := h

variable {P : Spell → Prop}

theorem allSpells_constant (hP : IsStable P) (value : Bool) : AllSpells P (.constant value) := by
  intro s hs
  rw [List.mem_singleton.1 hs]
  exact hP.constant value

theorem allSpells_negateIf (hP : IsStable P) {c : Clause} (negated : Bool) (h : AllSpells P c) :
    AllSpells P (c.negateIf negated) := by
  cases negated with
  | false => exact h
  | true =>
      cases c with
      | group g =>
          obtain ⟨negated, members⟩ := g
          exact h
      | spell s =>
          intro t ht
          rw [List.mem_singleton.1 ht]
          exact hP.negate s (h s (List.mem_singleton_self s))

theorem allSpells_of_mem_parts {joiner : Joiner} {c d : Clause} (h : AllSpells P c)
    (hd : d ∈ Clause.parts joiner c) : AllSpells P d := by
  rw [Clause.parts.eq_def] at hd
  split at hd
  · split at hd
    · obtain ⟨m, hm, rfl⟩ := List.mem_map.1 hd
      exact fun s hs => h s (mem_memberSpells hs hm)
    · exact List.mem_singleton.1 hd ▸ h
  · exact List.mem_singleton.1 hd ▸ h

theorem allSpells_ofKept (hP : IsStable P) {joiner : Joiner} (negated : Bool)
    {cs : List Clause} (h : ∀ c ∈ cs, AllSpells P c) :
    AllSpells P (Clause.ofKept joiner negated cs) := by
  match cs, h with
  | [c], h => exact allSpells_negateIf hP negated (h c (List.mem_singleton_self c))
  | [], h | _ :: _ :: _, h => exact allSpells_chain.2 h

theorem allSpells_joinChain (hP : IsStable P) (joiner : Joiner) (negated : Bool)
    {members : List (Option Clause)} (h : ∀ m ∈ members, ∀ c, m = some c → AllSpells P c) :
    ∀ c, Clause.joinChain joiner negated members = some c → AllSpells P c := by
  intro c hc
  rcases joinChain_cases joiner negated members with
    ⟨-, he⟩ | ⟨-, ⟨-, -, he⟩ | ⟨-, -, he⟩ | ⟨-, he⟩⟩
  · cases he ▸ hc
    exact allSpells_constant hP _
  · cases he ▸ hc
    exact allSpells_constant hP _
  · cases he ▸ hc
  · cases he ▸ hc
    refine allSpells_ofKept hP negated fun d hd => ?_
    obtain ⟨c, hc, -, hpart⟩ := mem_kept.1 hd
    exact allSpells_of_mem_parts (h _ hc c rfl) hpart

mutual

/-- **A stable property of the spells that apply is one of the spells of the canonical form.** -/
theorem allSpells_reduce (hP : IsStable P) : ∀ c : Clause,
    AllSpells (fun s => admitsAt place s.scope = true → P s) c →
    ∀ d, c.reduce place = some d → AllSpells P d
  | .spell s, h, d, hd => by
      rw [Clause.reduce] at hd
      split at hd
      · rename_i hs
        cases hd
        exact fun t ht => List.mem_singleton.1 ht ▸ h s (List.mem_singleton_self s) hs
      · cases hd
  | .group ⟨negated, members⟩, h, d, hd =>
      nest_induction (P := fun m => ∀ d, m = some d → AllSpells P d) (by rintro _ ⟨⟩)
        (fun joiner negated _ => allSpells_joinChain hP joiner negated) negated _
        (allSpells_reduceMembers hP members h) d hd

theorem allSpells_reduceMembers (hP : IsStable P) : ∀ members : List Member,
    (∀ s ∈ Group.memberSpells members, admitsAt place s.scope = true → P s) →
    ∀ m ∈ Group.reduceMembers place members, ∀ d, m.1 = some d → AllSpells P d
  | [], _, m, hm => by cases hm
  | ⟨c, joiner⟩ :: rest, h, m, hm => by
      rw [Group.memberSpells, List.forall_mem_append] at h
      rcases List.mem_cons.1 hm with rfl | hm
      · exact allSpells_reduce hP c h.1
      · exact allSpells_reduceMembers hP rest h.2 m hm

end

/-- Reduction leaves nothing that does not apply. -/
theorem isAdmitted_reduce {c d : Clause} (h : c.reduce place = some d) : IsAdmitted place d :=
  allSpells_reduce (isStable_admitsAt place) c (fun _ _ hs => hs) d h

/-- **Reducing once more changes nothing.** -/
theorem reduce_reduce {c d : Clause} (h : c.reduce place = some d) : d.reduce place = some d :=
  reduce_eq_self (reduced_reduce place c d h) (isAdmitted_reduce h)

/-! ### Outermost groups -/

/-- A constant that a group comes to has nothing but its sign. -/
theorem eq_constant_of_reduce {g : Group} {c : Clause} (h : g.reduce place = some c) {value : Bool}
    (hc : c.constant? = some value) : c = .constant value := by
  -- The group may be taken as one chain, since writing out its chains changes nothing.
  rw [← reduceGroup_regroup] at h
  generalize hchained : Clause.group g.regroup = chained at *
  cases hchained ▸ isChained_regroupGroup g with
  | spell s => cases hchained
  | @chain cs joiner negated _ =>
      rw [Clause.group.inj hchained, reduce_chain] at h
      rcases joinChain_cases joiner negated (cs.map (Clause.reduce place)) with
        ⟨-, he⟩ | ⟨-, ⟨-, -, he⟩ | ⟨-, -, he⟩ | ⟨-, he⟩⟩
      · cases he ▸ h
        rw [constant?_constant] at hc
        cases hc
        rfl
      · cases he ▸ h
        rw [constant?_constant] at hc
        cases hc
        rfl
      · cases he ▸ h
      · cases he ▸ h
        rw [constant?_ofKept fun d hd => ((allReduced_map_reduce place cs).of_mem_kept hd).1.1] at hc
        cases hc

/-- The group of one canonical clause comes to that clause. -/
theorem reduce_single {c : Clause} (h : Reduced c)
    (hconstant : ∀ value, c.constant? = some value → c = .constant value)
    (hc : c.reduce place = some c) : (Group.single c).reduce place = some c := by
  have hchain : (Group.single c).reduce place = Clause.joinChain .or false [some c] := by
    rw [← hc]
    exact reduce_chain .or false [c]
  rw [hchain]
  cases hvalue : c.constant? with
  | none => exact joinChain_singleton .or false h hvalue
  | some value =>
      rw [joinChain_singleton_constant .or false hvalue, Bool.bne_false, ← hconstant value hvalue]

/-- The outermost group of a canonical clause comes to that clause. -/
theorem reduce_asRoot {c : Clause} (h : Reduced c)
    (hconstant : ∀ value, c.constant? = some value → c = .constant value)
    (hc : c.reduce place = some c) : c.asRoot.reduce place = some c := by
  match c with
  | .spell s => exact reduce_single h hconstant hc
  | .group ⟨true, members⟩ => exact reduce_single h hconstant hc
  | .group ⟨false, members⟩ => exact hc

/-- **A canonical form is its own canonical form**, at the place that it was made for and without
any. -/
theorem canonical?_canonical? {g t : Group} (h : g.canonical? place = some t) :
    t.canonical? place = some t ∧ t.canonical? none = some t := by
  obtain ⟨c, hc, rfl⟩ := Option.map_eq_some_iff.1 h
  have hreduced : Reduced c := reduced_reduceGroup place g c hc
  have hself (place' : Option Place) (hplace : IsAdmitted place' c) :
      c.asRoot.canonical? place' = some c.asRoot := by
    rw [Group.canonical?, reduce_asRoot hreduced (fun _ => eq_constant_of_reduce hc)
      (reduce_eq_self hreduced hplace)]
    rfl
  exact ⟨hself place (isAdmitted_reduce (c := .group g) hc), hself none (isAdmitted_none c)⟩

/-- `!(#sage[a] | (#op[b] | !#all) & #all)` is `!#op[b]` at board `b`. -/
theorem canonical?_canonical?_of_scoped :
    let op : Clause := .spell { kind := .op, scope := some ⟨"b", .anywhere⟩ }
    let sage : Clause := .spell { kind := .sage, scope := some ⟨"a", .anywhere⟩ }
    let g : Group := ⟨true, [⟨sage, .or⟩,
      ⟨.group ⟨false, [⟨op, .or⟩, ⟨.constant false, .or⟩]⟩, .and⟩, ⟨.constant true, .or⟩]⟩
    let b : Place := { board := some "b" }
    ∃ t, g.canonical? (some b) = some t ∧ t.defaultText = "!#op[b]" ∧
      t.canonical? (some b) = some t ∧ t.canonical? none = some t := by
  intro op sage g b
  have htext : (g.canonical? (some b)).map Group.defaultText = some "!#op[b]" := by
    decide +kernel
  obtain ⟨t, ht, htext⟩ := Option.map_eq_some_iff.1 htext
  exact ⟨t, ht, htext, canonical?_canonical? ht⟩

end PostFilter.Canonical
