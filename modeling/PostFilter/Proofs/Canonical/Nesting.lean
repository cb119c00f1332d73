import Mathlib.Data.List.Nodup
import Mathlib.Order.Nat
import PostFilter.Document.WellFormed
import PostFilter.Proofs.Canonical.Pruning

/-!
# Canonical form — how deep it nests

A chain of two different members is a group one level deeper than they are (`joinChain_pair`). So a
line of several joiners, which is nested anew at every change of the joiner, gets one group deeper
there (`nestRun_pair`), and a line without any parentheses can have a canonical form that is nested
as deep as the line is long: that of `#op & #sage | #op & #sage | …` is (`canonical?_alternating`).
-/

namespace PostFilter.Canonical
open PostFilter.Order

variable {joiner joiner' : Joiner} {place : Option Place} {c d : Clause}

/-! ### Chains of two -/

/-- Whether a chain with this joiner takes the clause as one member. -/
structure IsMember (joiner : Joiner) (c : Clause) : Prop where
  link : IsLink joiner c
  reduced : Reduced c

theorem isMember_spell (joiner : Joiner) {s : Spell} (h : s.constant? = none) :
    IsMember joiner (.spell s) := ⟨⟨h, rfl⟩, .spell s⟩

/-- A chain of two links keeps both, in the order of clauses. -/
theorem kept_pair (hc : IsLink joiner c) (hd : IsLink joiner d) (hne : c ≠ d) :
    (Clause.kept joiner [c, d]).Perm [c, d] := by
  have hmem (e : Clause) : e ∈ Clause.kept joiner [c, d] ↔ e ∈ [c, d] := by
    rw [show [c, d] = [some c, some d].filterMap id from rfl, mem_kept]
    constructor
    · rintro ⟨f, hf, -, he⟩
      rcases List.mem_pair.1 hf with hf | hf <;> cases hf
      · rw [hc.2, List.mem_singleton] at he
        exact List.mem_pair.2 (Or.inl he)
      · rw [hd.2, List.mem_singleton] at he
        exact List.mem_pair.2 (Or.inr he)
    · intro he
      rcases List.mem_pair.1 he with rfl | rfl
      · exact ⟨e, by simp, hc.1, by simp [hc.2]⟩
      · exact ⟨e, by simp, hd.1, by simp [hd.2]⟩
  have hkept : (Clause.kept joiner [c, d]).Nodup :=
    (pairwise_kept joiner [c, d]).imp fun {a b} (h : Before a b) (he : a = b) =>
      not_before_self b (he ▸ h)
  exact (List.perm_ext_iff_of_nodup hkept (by simp [hne])).2 hmem

theorem membersDepth_chainMembers_le_iff {bound : Nat} : ∀ {cs : List Clause},
    Group.membersDepth (Group.chainMembers joiner cs) ≤ bound ↔ ∀ c ∈ cs, c.depth ≤ bound
  | [] => by simp [Group.chainMembers, Group.membersDepth]
  | [c] => by simp [Group.chainMembers, Group.membersDepth]
  | c :: d :: rest => by
      rw [Group.chainMembers, Group.membersDepth, Nat.max_le, List.forall_mem_cons,
        membersDepth_chainMembers_le_iff]

/-- **Two members make a chain one group deeper**, which any other chain takes as one member. -/
theorem joinChain_pair (hc : IsMember joiner c) (hd : IsMember joiner d) (hne : c ≠ d) :
    ∃ g : Group, Clause.joinChain joiner false [some c, some d] = some (.group g) ∧
      g.negated = false ∧ g.depth = max c.depth d.depth + 1 ∧
      ∀ joiner', joiner ≠ joiner' → IsMember joiner' (.group g) := by
  have hnone : ∀ e, some e ∈ [some c, some d] → e.constant? = none := by
    intro e he
    rcases List.mem_pair.1 he with he | he <;> cases he
    · exact hc.link.1
    · exact hd.link.1
  have hchain : Clause.joinChain joiner false [some c, some d] =
      if Clause.kept joiner [c, d] = [] then none
      else some (Clause.ofKept joiner false (Clause.kept joiner [c, d])) :=
    joinChain_of_nonconstant false hnone
  have hperm := kept_pair hc.link hd.link hne
  have hsorted := pairwise_kept joiner [c, d]
  generalize Clause.kept joiner [c, d] = cs at hchain hperm hsorted
  have two : 2 ≤ cs.length := by rw [hperm.length_eq]; exact Nat.le_refl 2
  have hmember : ∀ e ∈ cs, IsMember joiner e := by
    intro e he
    rcases List.mem_pair.1 (hperm.mem_iff.1 he) with rfl | rfl
    · exact hc
    · exact hd
  refine ⟨Group.chain joiner cs, ?_, rfl, ?_, fun joiner' hj => ⟨⟨rfl, ?_⟩, ?_⟩⟩
  · match cs, two with
    | _ :: _ :: _, _ => exact hchain
  · rw [Group.chain, Group.depth, Nat.add_left_inj]
    refine eq_of_forall_ge_iff fun bound => ?_
    rw [membersDepth_chainMembers_le_iff, Nat.max_le]
    simp [hperm.mem_iff]
  · exact parts_other two (Or.inr hj)
  · exact .chain false two hsorted (fun e he => (hmember e he).link) fun e he =>
      (hmember e he).reduced

/-! ### Chains of changing joiners -/

/-- The members of `#op & #sage | #op & #sage | …`, two for each pair. -/
def alternating : (pairs : Nat) → List Member
  | 0 => []
  | pairs + 1 =>
    ⟨.spell { kind := .op }, .and⟩ :: ⟨.spell { kind := .sage }, .or⟩ :: alternating pairs

theorem membersWellFormed_alternating (pairs : Nat) :
    Group.MembersWellFormed (alternating (pairs + 1)) := by
  have hop : Spell.IsWellFormed { kind := .op } :=
    ⟨(by decide : Kind.op.requirement ≠ .required), by rintro _ ⟨⟩⟩
  have hsage : Spell.IsWellFormed { kind := .sage } :=
    ⟨(by decide : Kind.sage.requirement ≠ .required), by rintro _ ⟨⟩⟩
  induction pairs with
  | zero => exact ⟨hop, hsage, rfl⟩
  | succ pairs ih => exact ⟨hop, hsage, ih⟩

theorem membersDepth_alternating (pairs : Nat) : Group.membersDepth (alternating pairs) = 0 := by
  induction pairs with
  | zero => rfl
  | succ pairs ih =>
      change max 0 (max 0 (Group.membersDepth (alternating pairs))) = 0
      rw [ih]
      rfl

theorem reduceMembers_alternating (pairs : Nat) :
    Group.reduceMembers place (alternating (pairs + 1)) =
      (some (.spell { kind := .op }), .and) :: (some (.spell { kind := .sage }), .or) ::
        Group.reduceMembers place (alternating pairs) := by
  cases place <;> rfl

/-- **A pair makes a run two groups deeper.** The run in hand ends at the joiner before the pair and
is one member of the chain with the first spell, and that is one of the chain with the second. -/
theorem nestRun_pair (place : Option Place) (pairs : Nat) :
    ∀ {c : Clause}, IsMember .and c → c ≠ .spell { kind := .sage } →
    ∃ g : Group, Clause.nestRun false [some (.spell { kind := .sage }), some c] (some .and) .or
        (Group.reduceMembers place (alternating pairs)) = some (.group g) ∧
      g.negated = false ∧ g.depth = c.depth + 1 + 2 * pairs := by
  have hop : IsMember .or (.spell { kind := .op }) := isMember_spell .or rfl
  have hsage : IsMember .and (.spell { kind := .sage }) := isMember_spell .and rfl
  induction pairs with
  | zero =>
      intro c hc hne
      obtain ⟨g, hchain, hpositive, hdepth, -⟩ := joinChain_pair hc hsage hne
      exact ⟨g, hchain, hpositive, hdepth.trans (by rw [Clause.depth, Nat.max_zero])⟩
  | succ pairs ih =>
      intro c hc hne
      obtain ⟨g, hchain, -, hdepth, hg⟩ := joinChain_pair hc hsage hne
      obtain ⟨h, hchain', -, hdepth', hh⟩ := joinChain_pair (hg .or nofun) hop nofun
      obtain ⟨k, hrun, hpositive, hk⟩ := ih (hh .and nofun) nofun
      refine ⟨k, ?_, hpositive, ?_⟩
      · rw [reduceMembers_alternating, Clause.nestRun, if_neg nofun, Clause.nestRun, if_neg nofun]
        change Clause.nestRun false [some (.spell { kind := .sage }), Clause.joinChain .or false
          [Clause.joinChain .and false [some c, some (.spell { kind := .sage })],
            some (.spell { kind := .op })]] (some .and) .or _ = _
        rw [hchain, hchain', hrun]
      · change k.depth = h.depth + 1 + 2 * pairs at hk
        change h.depth = max g.depth 0 + 1 at hdepth'
        change g.depth = max c.depth 0 + 1 at hdepth
        omega

/-- **A line without parentheses can have a canonical form nested as deep as the line is long.** -/
theorem canonical?_alternating (place : Option Place) (pairs : Nat) : ∃ g : Group,
    (Group.single (.group ⟨false, alternating (pairs + 1)⟩)).canonical? place = some g ∧
      g.depth = 2 * pairs + 1 := by
  obtain ⟨g, hrun, hpositive, hdepth⟩ := nestRun_pair place pairs
    (isMember_spell .and (s := { kind := .op }) rfl) nofun
  have hreduce : Clause.reduce place (.group ⟨false, alternating (pairs + 1)⟩) =
      some (.group g) := by
    rw [Clause.reduce, Group.reduce, reduceMembers_alternating, Clause.nest, Clause.nestRun, hrun]
  have hreduced : Reduced (.group g) := reduced_reduce place _ _ hreduce
  have hsingle : (Group.single (.group ⟨false, alternating (pairs + 1)⟩)).reduce place =
      some (.group g) := by
    rw [Group.single, Group.chain, reduce_chain, List.map_singleton, hreduce,
      joinChain_singleton .or false hreduced rfl]
    rfl
  refine ⟨g, ?_, ?_⟩
  · obtain ⟨negated, members⟩ := g
    cases hpositive
    rw [Group.canonical?, hsingle]
    rfl
  · change g.depth = 0 + 1 + 2 * pairs at hdepth
    omega

end PostFilter.Canonical
