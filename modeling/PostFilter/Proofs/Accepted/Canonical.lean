import PostFilter.Proofs.Accepted.Documents
import PostFilter.Proofs.Canonical.Shape
import PostFilter.Ruleset.Basic

/-!
# Documents — canonical forms can be written

Reduction makes no new spells but constants, and puts what is left into groups with members. So it
keeps clauses well-formed (`isWellFormed_reduce`). The canonical form of a document that can be read
back can be read back itself (`IsReadable.canonical`), and a ruleset of a well-formed document is
well-formed (`IsWellFormed.compile`).
-/

namespace PostFilter.Document
open Canonical

/-- Whether a member, if present, is well-formed. -/
def IsWellFormedMember (m : Option Clause) : Prop := ∀ c, m = some c → c.IsWellFormed

theorem isWellFormed_constant (value : Bool) : (Clause.constant value).IsWellFormed :=
  ⟨(by decide : Kind.all.requirement ≠ .required), by rintro _ ⟨⟩⟩

theorem isWellFormed_of_mem : ∀ {members : List Member}, Group.MembersWellFormed members →
    ∀ m ∈ members, m.clause.IsWellFormed
  | [⟨c, j⟩], h, m, hm => by
      rw [List.mem_singleton.1 hm]
      exact h.1
  | ⟨c, j⟩ :: n :: rest, h, m, hm => by
      rcases List.mem_cons.1 hm with rfl | hm
      · exact h.1
      · exact isWellFormed_of_mem h.2 m hm

theorem isWellFormed_of_mem_parts {joiner : Joiner} {c d : Clause} (h : c.IsWellFormed)
    (hd : d ∈ Clause.parts joiner c) : d.IsWellFormed := by
  rw [Clause.parts.eq_def] at hd
  split at hd
  · split at hd
    · obtain ⟨m, hm, rfl⟩ := List.mem_map.1 hd
      exact isWellFormed_of_mem h m hm
    · rw [List.mem_singleton.1 hd]
      exact h
  · rw [List.mem_singleton.1 hd]
    exact h

theorem isWellFormed_ofKept {joiner : Joiner} (negated : Bool) {cs : List Clause} (hne : cs ≠ [])
    (h : ∀ c ∈ cs, c.IsWellFormed) : (Clause.ofKept joiner negated cs).IsWellFormed := by
  match cs with
  | [] => exact absurd rfl hne
  | [c] => exact isWellFormed_negateIf (h c (by simp)) negated
  | c :: d :: rest => exact membersWellFormed_chainMembers joiner hne h

theorem isWellFormed_joinChain (joiner : Joiner) (negated : Bool)
    {members : List (Option Clause)} (h : ∀ m ∈ members, IsWellFormedMember m) :
    IsWellFormedMember (Clause.joinChain joiner negated members) := by
  intro c hc
  rcases joinChain_cases joiner negated members with
    ⟨-, he⟩ | ⟨-, ⟨-, -, he⟩ | ⟨-, -, he⟩ | ⟨hk, he⟩⟩
  · cases he ▸ hc
    exact isWellFormed_constant _
  · cases he ▸ hc
    exact isWellFormed_constant _
  · cases he ▸ hc
  · cases he ▸ hc
    refine isWellFormed_ofKept negated hk fun d hd => ?_
    obtain ⟨c, hc, -, hpart⟩ := mem_kept.1 hd
    exact isWellFormed_of_mem_parts (h _ hc c rfl) hpart

mutual

/-- **Reduction keeps clauses well-formed.** -/
theorem isWellFormed_reduce (place : Option Place) :
    ∀ c : Clause, c.IsWellFormed → IsWellFormedMember (c.reduce place)
  | .spell s, h => by
      intro d hd
      rw [Clause.reduce] at hd
      split at hd
      · cases hd
        exact h
      · cases hd
  | .group ⟨negated, members⟩, h =>
      nest_induction (P := IsWellFormedMember) (by rintro _ ⟨⟩)
        (fun joiner negated _ => isWellFormed_joinChain joiner negated) negated _
        (isWellFormed_reduceMembers place members (isWellFormed_of_mem h))

theorem isWellFormed_reduceMembers (place : Option Place) : ∀ members : List Member,
    (∀ m ∈ members, m.clause.IsWellFormed) →
    ∀ m ∈ Group.reduceMembers place members, IsWellFormedMember m.1
  | [], _, m, hm => by cases hm
  | ⟨c, joiner⟩ :: rest, h, m, hm => by
      rw [List.forall_mem_cons] at h
      rcases List.mem_cons.1 hm with rfl | hm
      · exact isWellFormed_reduce place c h.1
      · exact isWellFormed_reduceMembers place rest h.2 m hm

end

theorem isWellFormed_asRoot {c : Clause} (h : c.IsWellFormed) :
    c.asRoot.negated = false ∧ c.asRoot.IsWellFormed := by
  match c with
  | .spell s => exact ⟨rfl, h, rfl⟩
  | .group ⟨true, members⟩ => exact ⟨rfl, h, rfl⟩
  | .group ⟨false, members⟩ => exact ⟨rfl, h⟩

theorem isWellFormed_canonical? {place : Option Place} {g t : Group} (h : g.IsWellFormed)
    (ht : g.canonical? place = some t) : t.negated = false ∧ t.IsWellFormed := by
  obtain ⟨c, hc, rfl⟩ := Option.map_eq_some_iff.1 ht
  exact isWellFormed_asRoot (isWellFormed_reduce place (.group g) h c hc)

/-- **The canonical form of a readable document is readable.** -/
theorem IsReadable.canonical {d : Document} (h : d.IsReadable) : d.canonical.IsReadable := by
  refine ⟨fun t ht => ?_, h.scope, h.pattern⟩
  obtain ⟨g, hg, hgt⟩ := Option.bind_eq_some_iff.1 ht
  exact isWellFormed_canonical? (h.filter g hg).2 hgt

/-- **A ruleset of a well-formed document is well-formed.** -/
theorem IsWellFormed.compile {d : Document} (h : d.IsWellFormed) (place : Place) :
    (d.compile place).document.IsWellFormed := by
  refine ⟨fun t ht => ?_, fun rule hr => h.incoming rule (List.mem_filter.1 hr).1,
    fun rule hr => h.outgoing rule (List.mem_filter.1 hr).1⟩
  obtain ⟨g, hg, hgt⟩ := Option.bind_eq_some_iff.1 ht
  exact isWellFormed_canonical? (h.filter g hg).2 hgt

/-- Whatever is compiled was read. -/
theorem exists_of_compileSource {source : String} {place : Place} {limits : Limits} {r : Ruleset}
    (h : compileSource source place limits = .ok r) :
    ∃ d, parse source limits = .ok d ∧ d.compile place = r := by
  rw [compileSource] at h
  cases hd : parse source limits with
  | error fault =>
      rw [hd] at h
      cases h
  | ok d =>
      rw [hd] at h
      cases h
      exact ⟨d, rfl, rfl⟩

/-- The outermost group of a reduced clause is the clause as a statement. -/
theorem statementClause_asRoot {c : Clause} (h : Reduced c) :
    statementClause c.asRoot.members = c := by
  cases h with
  | spell s => rfl
  | @chain joiner cs negated two _ _ _ =>
      match cs, two, negated with
      | _ :: _ :: _, _, true => rfl
      | [_, _], _, false => rfl
      | _ :: _ :: _ :: _, _, false => rfl

end PostFilter.Document
