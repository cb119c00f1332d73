import PostFilter.Proofs.Accepted.Canonical
import PostFilter.Proofs.Canonical.Meaning
import PostFilter.Proofs.Canonical.Nesting
import PostFilter.Proofs.Grammar.Concatenation
import PostFilter.Proofs.Verdict.Fitting

/-!
# Documents — what is read is understood

The reader and the engine agree on what a kind may have. So whatever is read is well-formed, is
examined by the cases of its kinds alone, and is so in canonical form at every place
(`parse_understood`).

How deep it nests is told by the grammar: a group is nested no deeper than its parentheses, and a
statement of several operands is a group without any (`DocumentText.depth_le`).
-/

namespace PostFilter.Document

open Canonical

/-! ### Nesting -/

theorem depth_negate (c : Clause) : c.negate.depth = c.depth := by
  cases c with
  | spell s => rfl
  | group g => obtain ⟨negated, members⟩ := g; rfl

section Operands

variable {bound : Nat} {s : List Char}

/-- A chain is nested no deeper than its operands. -/
theorem ChainText.membersDepth_le {Operand : Clause → List Char → Prop} {members : List Member}
    (hoperand : ∀ {c s}, Operand c s → c.depth ≤ bound) (h : ChainText Operand members s) :
    Group.membersDepth members ≤ bound := by
  induction h with
  | one h => exact Nat.max_le.2 ⟨hoperand h, Nat.zero_le bound⟩
  | more h _ _ _ ih => exact Nat.max_le.2 ⟨hoperand h, ih⟩

/-- An operand is nested no deeper than its parentheses. -/
theorem OperandText.depth_le {inside : Bool} {InParentheses : Group → List Char → Prop} {c : Clause}
    (hgroup : ∀ {g s}, InParentheses g s → g.depth ≤ bound)
    (h : OperandText inside InParentheses c s) : c.depth ≤ bound := by
  have hplain {c : Clause} {s : List Char} (h : PlainOperandText InParentheses c s) :
      c.depth ≤ bound := by
    cases h with
    | spell _ => exact Nat.zero_le bound
    | group h => exact hgroup h
  cases h with
  | plain h => exact hplain h
  | negated _ h => exact (depth_negate _).trans_le (hplain h)

end Operands

theorem GroupTextWithin.depth_le : ∀ {levels : Nat} {g : Group} {s : List Char},
    GroupTextWithin levels g s → g.depth ≤ levels
  | _ + 1, _, _, .mk _ h _ =>
      Nat.succ_le_succ (h.membersDepth_le (OperandText.depth_le GroupTextWithin.depth_le))

/-- A statement of several operands is one group more. -/
theorem StatementText.depth_le {levels : Nat} {c : Clause} {s : List Char}
    (h : StatementText levels (.clause c) s) : c.depth ≤ levels + 1 := by
  cases h with
  | operand h => exact Nat.le_succ_of_le (h.depth_le GroupTextWithin.depth_le)
  | chain _ h =>
      exact Nat.succ_le_succ (h.membersDepth_le (OperandText.depth_le GroupTextWithin.depth_le))

theorem DocumentText.clauses_depth_le {levels : Nat} {statements : List Statement} {s : List Char}
    (h : DocumentText levels statements s) :
    ∀ c ∈ statements.filterMap Statement.clause?, c.depth ≤ levels + 1 := by
  induction h with
  | blank _ => exact fun c hc => (nomatch hc)
  | @more statement statements _ _ _ _ _ h _ _ _ ih =>
      cases statement with
      | clause c => exact List.forall_mem_cons.2 ⟨h.depth_le, ih⟩
      | replacement direction rule => exact ih

/-- **A document is nested at most one group deeper than its parentheses.** -/
theorem DocumentText.depth_le {levels : Nat} {statements : List Statement} {s : List Char}
    (h : DocumentText levels statements s) : (ofStatements statements).depth ≤ levels + 1 := by
  have hclauses := h.clauses_depth_le
  rw [depth, ofStatements]
  cases hcs : statements.filterMap Statement.clause? with
  | nil => exact Nat.zero_le _
  | cons c cs =>
      rw [hcs] at hclauses
      exact membersDepth_chainMembers_le_iff.2 hclauses

/-! ### Documents -/

/-- The statements of a document are joined by `or`. -/
theorem joiner_of_mem_rootMembers {statements : List Statement} {m : Member}
    (hm : m ∈ (ofStatements statements).rootMembers) : m.joiner = .or := by
  rw [rootMembers_ofStatements] at hm
  obtain ⟨c, -, rfl⟩ := List.mem_map.1 hm
  rfl

/-- **What is read is well-formed, and the engine understands all of it.** The statements are joined
by `or`, and groups are nested at most one level deeper than parentheses may be. Every spell has an
argument that is examined by a case of its kind, and so has every spell of the canonical form, at
whatever place. -/
theorem parse_understood {source : String} {limits : Limits} {d : Document}
    (h : parse source limits = .ok d) :
    d.IsWellFormed ∧ (∀ m ∈ d.rootMembers, m.joiner = .or) ∧ d.depth ≤ limits.depth + 1 ∧
      ∀ g ∈ d.filter, g.Fits ∧ ∀ place, ∀ t ∈ g.canonical? place, t.Fits := by
  have hd : d.IsWellFormed := parse_isWellFormed h
  obtain ⟨-, statements, htext, rfl⟩ := parse_eq_ok_iff.1 h
  refine ⟨hd, fun m hm => joiner_of_mem_rootMembers hm, htext.depth_le, fun g hg => ?_⟩
  have hg : g.IsWellFormed := (hd.filter g hg).2
  exact ⟨hg.fits, fun place t ht => (isWellFormed_canonical? hg ht).2.fits⟩

/-- The line `#words(spam \(new\)) & #tlen(10-20,35) | !#op` where no group may stand in parentheses:
it is a group nevertheless. -/
theorem parse_understood_of_line :
    let words : Spell := { kind := .words, argument := some (.text "spam (new)") }
    let tlen : Spell := { kind := .tlen, argument := some (.ranges [⟨10, 20⟩, ⟨35, 35⟩]) }
    let op : Spell := { kind := .op, negated := true }
    let line : Group := ⟨false, [⟨.spell words, .and⟩, ⟨.spell tlen, .or⟩, ⟨.spell op, .or⟩]⟩
    let g : Group := .single (.group line)
    let d : Document := { filter := some g }
    parse "#words(spam \\(new\\)) & #tlen(10-20,35) | !#op" { depth := 0 } = .ok d ∧
      d.IsWellFormed ∧ d.depth = 1 ∧ d.depth ≤ 0 + 1 ∧ g.Fits ∧
      ∀ place, ∃ t, g.canonical? place = some t ∧ t.Fits := by
  intro words tlen op line g d
  have hwords : words.IsWellFormed :=
    ⟨⟨by decide, rfl, by decide, by decide⟩, by rintro _ ⟨⟩⟩
  have htlen : tlen.IsWellFormed := by
    refine ⟨⟨by decide, rfl, List.cons_ne_nil _ _, ?_⟩, by rintro _ ⟨⟩⟩
    exact List.forall_mem_cons.2 ⟨(by decide : (10 : UInt64) ≤ 20),
      List.forall_mem_singleton.2 (by decide : (35 : UInt64) ≤ 35)⟩
  have hop : op.IsWellFormed :=
    ⟨(by decide : Kind.op.requirement ≠ .required), by rintro _ ⟨⟩⟩
  have hline : (Document.mk (some line) [] []).IsWellFormed := by
    refine ⟨?_, by rintro _ ⟨⟩, by rintro _ ⟨⟩⟩
    rintro _ ⟨⟩
    exact ⟨rfl, hwords, htlen, hop, rfl⟩
  have h : parse "#words(spam \\(new\\)) & #tlen(10-20,35) | !#op" { depth := 0 } = .ok d :=
    parse_of_text hline (by decide +kernel) (by decide) (Nat.le_refl 0)
  obtain ⟨hd, -, hdepth, hfits⟩ := parse_understood h
  obtain ⟨hg, hcanonical⟩ := hfits g rfl
  refine ⟨h, hd, rfl, hdepth, hg, fun place => ?_⟩
  -- None of the spells has a scope, so they are present everywhere.
  have hpresent : g.canonical? place ≠ none := fun hnone => by
    have habsent := (canonical?_eq_none_iff g place).1 hnone words (List.mem_cons_self ..)
    cases place <;> cases habsent
  obtain ⟨t, ht⟩ := Option.ne_none_iff_exists'.1 hpresent
  exact ⟨t, ht, hcanonical place t ht⟩

end PostFilter.Document
