import PostFilter.Proofs.Ruleset.Reparse
import PostFilter.Proofs.Ruleset.Stored

/-!
# Rulesets — how deep the stored form is nested

A stored filter is nested four levels for each group and some more for the spells inside
(`Clause.leveled`): a group is a record with an array of members, which are records of tagged
clauses. What else a document holds is nested less than any filter, so the filter alone decides
whether the document can be loaded.

* `Ruleset.load?_store_of_compileSource` — which rule lists give rulesets that are loaded again.
-/

namespace PostFilter

mutual

/-- The spells of a clause, each with the number of groups around it; `levels` groups are around the
clause. -/
def Clause.leveled (levels : Nat) : Clause → List (Nat × Spell)
  | .spell s => [(levels, s)]
  | .group g => g.leveled levels

/-- The spells of a group, each with the number of groups around it. -/
def Group.leveled (levels : Nat) : Group → List (Nat × Spell)
  | ⟨_, members⟩ => Group.membersLeveled (levels + 1) members

/-- The spells of members, each with the number of groups around it. -/
def Group.membersLeveled (levels : Nat) : List Member → List (Nat × Spell)
  | [] => []
  | ⟨c, _⟩ :: rest => c.leveled levels ++ Group.membersLeveled levels rest

end

namespace Json

/-! ### Spells and rules -/

theorem itemsDepth_map_le {α : Type} {encode : α → Json} {bound : Nat}
    (h : ∀ a, (encode a).depth ≤ bound) : ∀ as : List α, itemsDepth (as.map encode) ≤ bound
  | [] => Nat.zero_le _
  | a :: as => Nat.max_le.2 ⟨h a, itemsDepth_map_le h as⟩

theorem depth_ofOption_le {α : Type} {encode : α → Json} {bound : Nat}
    (h : ∀ a, (encode a).depth ≤ bound) : ∀ a : Option α, (ofOption encode a).depth ≤ bound
  | none => Nat.zero_le _
  | some a => h a

theorem depth_ofScope_le (s : Scope) : (ofScope s).depth ≤ 2 := by
  obtain ⟨board, thread⟩ := s
  cases thread with
  | anywhere | boardOnly => exact (by decide : 1 ≤ 2)
  | thread n => exact Nat.le_refl 2

theorem depth_ofImageBound_le (b : ImageBound) : (ofImageBound b).depth ≤ 3 := by
  have hweight : (ofOption ofNumberRange b.weight).depth ≤ 1 :=
    depth_ofOption_le (fun _ => Nat.le_refl 1) b.weight
  have hsize : (ofOption ofSizeRange b.size).depth ≤ 2 :=
    depth_ofOption_le (fun _ => Nat.le_refl 2) b.size
  change max 0 (max _ (max _ 0)) + 1 ≤ 3
  omega

theorem depth_ofArgument_le (a : Argument) : (ofArgument a).depth ≤ 4 := by
  cases a with
  | text | checks | signature => exact (by decide : 1 ≤ 4)
  | pattern => exact (by decide : 2 ≤ 4)
  | ranges rs =>
      have hitems : itemsDepth (rs.map ofNumberRange) ≤ 1 :=
        itemsDepth_map_le (fun _ => Nat.le_refl 1) rs
      change max (_ + 1) 0 + 1 ≤ 4
      omega
  | image b =>
      have hbound := depth_ofImageBound_le b
      change max _ 0 + 1 ≤ 4
      omega

/-- A spell is nested in its document at least one level and at most five. -/
theorem depth_ofSpell_le (s : Spell) : 1 ≤ (ofSpell s).depth ∧ (ofSpell s).depth ≤ 5 := by
  have hargument := depth_ofOption_le depth_ofArgument_le s.argument
  have hscope := depth_ofOption_le depth_ofScope_le s.scope
  change 1 ≤ max 0 (max _ (max _ (max 0 0))) + 1 ∧ max 0 (max _ (max _ (max 0 0))) + 1 ≤ 5
  omega

theorem depth_ofReplacement_le (r : Replacement) : (ofReplacement r).depth ≤ 3 := by
  have hscope := depth_ofOption_le depth_ofScope_le r.scope
  change max _ (max 1 (max 0 0)) + 1 ≤ 3
  omega

/-! ### Filters -/

mutual

/-- A clause is nested in its document as deep as some spell in it, four levels for each group
around that spell. -/
theorem depth_ofClause_le_iff (levels bound : Nat) : ∀ {c : Clause}, c.IsWellFormed →
    (4 * levels + (ofClause c).depth ≤ bound + 1 ↔
      ∀ p ∈ c.leveled levels, 4 * p.1 + (ofSpell p.2).depth ≤ bound)
  | .spell s, _ => by
      rw [Clause.leveled, List.forall_mem_singleton]
      change 4 * levels + (max (ofSpell s).depth 0 + 1) ≤ bound + 1 ↔
        4 * levels + (ofSpell s).depth ≤ bound
      omega
  | .group ⟨_, members⟩, h => by
      rw [Clause.leveled, Group.leveled, ← depth_ofMembers_le_iff levels bound h]
      change 4 * levels + (max 0 (max (itemsDepth (ofMembers members) + 1) 0) + 1 + 1) ≤ _ ↔ _
      omega

theorem depth_ofMembers_le_iff (levels bound : Nat) : ∀ {members : List Member},
    Group.MembersWellFormed members →
    (4 * levels + itemsDepth (ofMembers members) + 3 ≤ bound + 1 ↔
      ∀ p ∈ Group.membersLeveled (levels + 1) members, 4 * p.1 + (ofSpell p.2).depth ≤ bound)
  | [⟨c, j⟩], h => by
      have hc := depth_ofClause_le_iff (levels + 1) bound h.1
      rw [Group.membersLeveled, Group.membersLeveled, List.append_nil, ← hc]
      change 4 * levels + max (max (ofClause c).depth 0 + 1) 0 + 3 ≤ _ ↔ _
      omega
  | ⟨c, j⟩ :: m :: rest, h => by
      have hc := depth_ofClause_le_iff (levels + 1) bound h.1
      have hrest := depth_ofMembers_le_iff levels bound h.2
      rw [Group.membersLeveled, List.forall_mem_append, ← hc, ← hrest]
      change 4 * levels + max (max (ofClause c).depth 0 + 1) (itemsDepth (ofMembers _)) + 3 ≤ _ ↔ _
      omega

end

theorem depth_ofGroup_le_iff (bound : Nat) {g : Group} (h : g.IsWellFormed) :
    (ofGroup g).depth ≤ bound ↔ ∀ p ∈ g.leveled 0, 4 * p.1 + (ofSpell p.2).depth ≤ bound := by
  have hclause := depth_ofClause_le_iff 0 bound (c := .group g) h
  rw [Clause.leveled] at hclause
  rw [← hclause]
  change _ ↔ 4 * 0 + (max (ofGroup g).depth 0 + 1) ≤ bound + 1
  omega

/-- The filter alone decides how deep a document is nested. -/
theorem depth_ofStored_lt_iff (timestamp : UInt64) (r : Ruleset) :
    (ofStored ⟨timestamp, r⟩).depth < nestLimit ↔ (ofOption ofGroup r.filter).depth ≤ 126 := by
  have hincoming := itemsDepth_map_le depth_ofReplacement_le r.incoming
  have houtgoing := itemsDepth_map_le depth_ofReplacement_le r.outgoing
  have hboard : (ofOption ofString r.place.board).depth ≤ 0 :=
    depth_ofOption_le (fun _ => Nat.le_refl 0) r.place.board
  have hthread : (ofOption ofUInt64 r.place.thread).depth ≤ 0 :=
    depth_ofOption_le (fun _ => Nat.le_refl 0) r.place.thread
  change max 0 (max 0 (max (ofOption ofGroup r.filter).depth
    (max (itemsDepth (r.incoming.map ofReplacement) + 1)
      (max (itemsDepth (r.outgoing.map ofReplacement) + 1)
        (max (max (ofOption ofString r.place.board).depth
          (max (ofOption ofUInt64 r.place.thread).depth 0) + 1) 0))))) + 1 < 128 ↔ _
  omega

end Json

/-! ### Depth -/

mutual

/-- A clause is nested as deep as some spell in it. -/
theorem Clause.depth_le_iff (levels bound : Nat) : ∀ {c : Clause}, c.IsWellFormed →
    (levels + c.depth ≤ bound ↔ ∀ p ∈ c.leveled levels, p.1 ≤ bound)
  | .spell s, _ => by
      rw [Clause.leveled, List.forall_mem_singleton]
      rfl
  | .group ⟨_, members⟩, h => by
      rw [Clause.leveled, Group.leveled, ← Group.membersDepth_le_iff (levels + 1) bound h,
        Clause.depth, Group.depth]
      omega

theorem Group.membersDepth_le_iff (levels bound : Nat) : ∀ {members : List Member},
    Group.MembersWellFormed members →
    (levels + Group.membersDepth members ≤ bound ↔
      ∀ p ∈ Group.membersLeveled levels members, p.1 ≤ bound)
  | [⟨c, j⟩], h => by
      rw [Group.membersLeveled, Group.membersLeveled, List.append_nil,
        ← Clause.depth_le_iff levels bound h.1, Group.membersDepth, Group.membersDepth]
      omega
  | ⟨c, j⟩ :: m :: rest, h => by
      rw [Group.membersLeveled, List.forall_mem_append, ← Clause.depth_le_iff levels bound h.1,
        ← Group.membersDepth_le_iff levels bound h.2, Group.membersDepth]
      omega

end

namespace Ruleset

/-- Whether no spell of the filter is nested too deep to be loaded: four levels for each group
around it, and its own ones. -/
def IsLoadable (r : Ruleset) : Prop :=
  ∀ g ∈ r.filter, ∀ p ∈ g.leveled 0, 4 * p.1 + (Json.ofSpell p.2).depth + 2 ≤ Json.nestLimit

theorem depth_ofStored_of_isWellFormed {r : Ruleset} (h : ∀ g ∈ r.filter, g.IsWellFormed)
    (timestamp : UInt64) :
    (Json.ofStored ⟨timestamp, r⟩).depth < Json.nestLimit ↔ r.IsLoadable := by
  rw [Json.depth_ofStored_lt_iff, IsLoadable]
  match hg : r.filter with
  | none =>
      refine iff_of_true (Nat.zero_le _) ?_
      rintro _ ⟨⟩
  | some g =>
      have hlimit : (∀ p ∈ g.leveled 0, 4 * p.1 + (Json.ofSpell p.2).depth ≤ 126) ↔
          ∀ p ∈ g.leveled 0, 4 * p.1 + (Json.ofSpell p.2).depth + 2 ≤ Json.nestLimit :=
        forall₂_congr fun _ _ => Nat.add_le_add_iff_right.symm
      refine ((Json.depth_ofGroup_le_iff 126 (h g hg)).trans hlimit).trans ?_
      exact ⟨fun hfits t ht => by cases ht; exact hfits, fun hfits => hfits g rfl⟩

theorem isLoadable_of_depth_le {r : Ruleset} (h : ∀ g ∈ r.filter, g.IsWellFormed ∧ g.depth ≤ 30) :
    r.IsLoadable := by
  intro g hg p hp
  obtain ⟨hwf, hdepth⟩ := h g hg
  have hlevels := (Clause.depth_le_iff 0 30 (c := .group g) hwf).1 (by rwa [Nat.zero_add]) p hp
  have hspell := (Json.depth_ofSpell_le p.2).2
  change _ ≤ 128
  omega

theorem not_isLoadable_of_lt_depth {r : Ruleset} {g : Group} (hg : g ∈ r.filter)
    (h : g.IsWellFormed) (hdepth : 31 < g.depth) : ¬ r.IsLoadable := by
  intro hload
  refine Nat.not_le.2 hdepth ?_
  have hle := (Clause.depth_le_iff 0 31 (c := .group g) h).2 fun p hp => ?_
  · rwa [Nat.zero_add] at hle
  · have hspell := (Json.depth_ofSpell_le p.2).1
    have hfits : _ ≤ 128 := hload g hg p hp
    omega

/-- **What is compiled and stored is loaded again exactly if its spells are not nested too deep.**
Thirty groups around every spell are never too many, and thirty-two always are. -/
theorem load?_store_of_compileSource {source : String} {place : Place}
    {limits : Document.Limits} {r : Ruleset} (h : compileSource source place limits = .ok r)
    (timestamp : UInt64) :
    (r.IsLoadable → StoredRuleset.load? (r.store timestamp) = some ⟨timestamp, r⟩) ∧
    (¬ r.IsLoadable → StoredRuleset.load? (r.store timestamp) = none) ∧
    ((∀ g ∈ r.filter, g.depth ≤ 30) → r.IsLoadable) ∧
    ((∃ g ∈ r.filter, 32 ≤ g.depth) → ¬ r.IsLoadable) := by
  obtain ⟨d, hd, rfl⟩ := Document.exists_of_compileSource h
  have hwf : ∀ g ∈ (d.compile place).filter, g.IsWellFormed :=
    fun g hg => ((Document.parse_isWellFormed hd).compile place).filter g hg |>.2
  have hdepth := depth_ofStored_of_isWellFormed hwf timestamp
  refine ⟨fun hload => ?_, fun hload => ?_, fun h => isLoadable_of_depth_le ?_, ?_⟩
  · rw [load?_store, if_pos (hdepth.2 hload)]
  · rw [load?_store, if_neg (mt hdepth.1 hload)]
  · exact fun g hg => ⟨hwf g hg, h g hg⟩
  · rintro ⟨g, hg, h⟩
    exact not_isLoadable_of_lt_depth hg (hwf g hg) h

/-- Thirty-four spells in one line are nested in thirty-three groups, and the document of them is
not loaded again. -/
theorem load?_store_of_alternating :
    ∃ r, compileSource (Document.alternatingText 16) {} = .ok r ∧
      StoredRuleset.load? (r.store 0) = none := by
  obtain ⟨r, g, hr, hg, hgdepth⟩ := Document.compileSource_alternatingText 16 {} {} (by decide)
  obtain ⟨-, hnone, -, hdeep⟩ := load?_store_of_compileSource hr 0
  exact ⟨r, hr, hnone (hdeep ⟨g, hg, hgdepth ▸ Nat.le_succ 32⟩)⟩

end Ruleset

end PostFilter
