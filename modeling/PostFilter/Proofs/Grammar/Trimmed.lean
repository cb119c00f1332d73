import PostFilter.Proofs.Grammar.Concatenation

/-!
# Documents — without the blanks behind them, and within other limits

Every statement ends in a character that is not blank (`StatementText.endsSolid`). So the blanks that
a document loses when its end is trimmed are none of its statements, and it stays a document of the
same statements (`DocumentText.trimEnd`).

A text that is a document within a limit is the same one within any higher limit
(`DocumentText.mono`).
-/

namespace PostFilter.Document

open Text

/-! ### Ends of texts -/

/-- Whether the last character of a text is not blank. -/
def EndsSolid (s : List Char) : Prop := ∃ a c, isBlank c = false ∧ s = a ++ [c]

namespace EndsSolid

variable {s t : List Char}

theorem singleton {c : Char} (h : isBlank c = false) : EndsSolid [c] := ⟨[], c, h, rfl⟩

theorem append (s : List Char) (h : EndsSolid t) : EndsSolid (s ++ t) := by
  obtain ⟨a, c, hc, rfl⟩ := h
  exact ⟨s ++ a, c, hc, (List.append_assoc s a [c]).symm⟩

theorem cons (c : Char) (h : EndsSolid t) : EndsSolid (c :: t) := h.append [c]

theorem ne_nil (h : EndsSolid s) : s ≠ [] := by
  obtain ⟨a, c, -, rfl⟩ := h
  exact List.append_ne_nil_of_right_ne_nil a (List.cons_ne_nil c [])

/-- Trimming takes away what is blank behind such an end. -/
theorem trimEnd_append {blanks : List Char} (h : EndsSolid s)
    (hblanks : ∀ c ∈ blanks, isBlank c = true) : Text.trimEnd (s ++ blanks) = s := by
  obtain ⟨a, c, hc, rfl⟩ := h
  rw [List.append_assoc, List.singleton_append, trimEnd_append_cons hc, trimEnd_eq_nil hblanks]

end EndsSolid

theorem isBlank_of_isAnyBlank {c : Char} (h : isAnyBlank c = true) : isBlank c = true := by
  rcases isAnyBlank_eq h with rfl | rfl | rfl | rfl <;> rfl

theorem endsSolid_word (kind : Kind) : EndsSolid kind.word.toList := by
  have hne : kind.word.toList ≠ [] := by cases kind <;> decide
  refine ⟨_, kind.word.toList.getLast hne, ?_, (List.dropLast_concat_getLast hne).symm⟩
  cases kind <;> rfl

theorem ScopeText.endsSolid {scope : Scope} {s : List Char} (h : ScopeText scope s) :
    EndsSolid s := by
  have hclose : EndsSolid [']'] := .singleton rfl
  cases h with
  | anywhere _ => exact (hclose.append _).cons _
  | boardOnly _ _ => exact (((hclose.append _).cons _).append _).cons _
  | thread _ _ => exact (((hclose.append _).cons _).append _).cons _

/-- A spell ends in the last letter of its word, or in a bracket or parenthesis. -/
theorem SpellText.endsSolid {spell : Spell} {s : List Char} (h : SpellText spell s) :
    EndsSolid s := by
  cases h with
  | @mk kind argument scope s t hscope hargument =>
      cases hargument with
      | some _ _ _ => exact (((((EndsSolid.singleton rfl).append _).cons _).append _).append _).cons _
      | none _ =>
          rw [List.append_nil]
          cases hscope with
          | none =>
              rw [List.append_nil]
              exact (endsSolid_word kind).cons _
          | some hscope => exact (hscope.endsSolid.append _).cons _

variable {Operand Operand' : Clause → List Char → Prop}
  {InParentheses InParentheses' : Group → List Char → Prop} {inside : Bool}

theorem GroupText.endsSolid {g : Group} {s : List Char} (h : GroupText Operand g s) :
    EndsSolid s := by
  cases h with
  | mk _ _ _ => exact ((((EndsSolid.singleton rfl).append _).append _).append _).cons _

theorem OperandText.endsSolid (hgroup : ∀ g s, InParentheses g s → EndsSolid s) {c : Clause}
    {s : List Char} (h : OperandText inside InParentheses c s) : EndsSolid s := by
  have hplain {c : Clause} {s : List Char} (h : PlainOperandText InParentheses c s) :
      EndsSolid s := by
    cases h with
    | spell h => exact h.endsSolid
    | group h => exact hgroup _ _ h
  cases h with
  | plain h => exact hplain h
  | negated _ h => exact ((hplain h).append _).cons _

theorem ChainText.endsSolid (hoperand : ∀ c s, Operand c s → EndsSolid s) {members : List Member}
    {s : List Char} (h : ChainText Operand members s) : EndsSolid s := by
  induction h with
  | one h => exact hoperand _ _ h
  | more _ _ _ _ ih => exact (((ih.append _).cons _).append _).append _

theorem GroupTextWithin.endsSolid : ∀ {levels : Nat} {g : Group} {s : List Char},
    GroupTextWithin levels g s → EndsSolid s
  | _ + 1, _, _, h => GroupText.endsSolid h

/-- **A statement does not end in a blank.** -/
theorem StatementText.endsSolid {levels : Nat} {statement : Statement} {s : List Char}
    (h : StatementText levels statement s) : EndsSolid s := by
  have hoperand (c : Clause) (s : List Char)
      (h : OperandText false (GroupTextWithin levels) c s) : EndsSolid s :=
    h.endsSolid fun _ _ => GroupTextWithin.endsSolid
  cases h with
  | operand h => exact hoperand _ _ h
  | chain _ h => exact h.endsSolid hoperand
  | replacement h =>
      cases h with
      | mk _ _ _ _ =>
          exact ((((((EndsSolid.singleton rfl).append _).append _).cons _).append _).append _).cons _

/-! ### Trimming a document -/

variable {levels levels' : Nat} {statements : List Statement} {s : List Char}

/-- A document is one of the same statements and blanks behind it. Where it has statements, it ends
with the last one. -/
theorem DocumentText.exists_core (h : DocumentText levels statements s) :
    ∃ core blanks, s = core ++ blanks ∧ MadeOf isAnyBlank blanks ∧
      DocumentText levels statements core ∧
      (core = [] ∧ statements = [] ∨ EndsSolid core) := by
  induction h with
  | blank h => exact ⟨[], _, rfl, h, .blank (madeOf_nil _), Or.inl ⟨rfl, rfl⟩⟩
  | @more statement statements before text after rest hbefore h hafter hend hmore ih =>
      obtain ⟨core, blanks, rfl, hblanks, hcore, hsolid⟩ := ih
      rcases hsolid with ⟨rfl, rfl⟩ | hsolid
      · refine ⟨before ++ (text ++ ([] ++ [])), after ++ blanks, by simp,
          (hafter.mono fun _ => isAnyBlank_of_isInlineBlank).append hblanks,
          .more hbefore h (madeOf_nil _) endsLine_nil hcore, Or.inr ?_⟩
        rw [List.append_nil, List.append_nil]
        exact h.endsSolid.append _
      · have hend' : EndsLine core := by
          intro c hc
          refine hend c ?_
          rw [List.head?_append, hc]
          rfl
        exact ⟨before ++ (text ++ (after ++ core)), blanks, by simp, hblanks,
          .more hbefore h hafter hend' hcore, Or.inr (((hsolid.append _).append _).append _)⟩

/-- **Trimming the end of a document leaves its statements.** What is left is nothing where there
are none. -/
theorem DocumentText.trimEnd (h : DocumentText levels statements s) :
    DocumentText levels statements (Text.trimEnd s) ∧ (Text.trimEnd s = [] → statements = []) := by
  obtain ⟨core, blanks, rfl, hblanks, hcore, hsolid⟩ := h.exists_core
  have hblank : ∀ c ∈ blanks, isBlank c = true := fun c hc => isBlank_of_isAnyBlank (hblanks c hc)
  rcases hsolid with ⟨rfl, rfl⟩ | hsolid
  · rw [List.nil_append, trimEnd_eq_nil hblank]
    exact ⟨hcore, fun _ => rfl⟩
  · rw [hsolid.trimEnd_append hblank]
    exact ⟨hcore, fun hnil => absurd hnil hsolid.ne_nil⟩

/-! ### Higher limits -/

theorem ChainText.mono (hoperand : ∀ c s, Operand c s → Operand' c s) {members : List Member}
    (h : ChainText Operand members s) : ChainText Operand' members s := by
  induction h with
  | one h => exact .one (hoperand _ _ h)
  | more h hbefore hafter _ ih => exact .more (hoperand _ _ h) hbefore hafter ih

theorem OperandText.mono (hgroup : ∀ g s, InParentheses g s → InParentheses' g s) {c : Clause}
    (h : OperandText inside InParentheses c s) : OperandText inside InParentheses' c s := by
  have hplain {c : Clause} {s : List Char} (h : PlainOperandText InParentheses c s) :
      PlainOperandText InParentheses' c s := by
    cases h with
    | spell h => exact .spell h
    | group h => exact .group (hgroup _ _ h)
  cases h with
  | plain h => exact .plain (hplain h)
  | negated hblanks h => exact .negated hblanks (hplain h)

theorem GroupTextWithin.mono : ∀ {levels levels' : Nat}, levels ≤ levels' → ∀ (g : Group)
    (s : List Char), GroupTextWithin levels g s → GroupTextWithin levels' g s
  | _ + 1, _ + 1, hle, _, _, .mk hbefore h hafter =>
      .mk hbefore (h.mono fun _ _ hoperand =>
        hoperand.mono (GroupTextWithin.mono (Nat.le_of_succ_le_succ hle))) hafter

theorem StatementText.mono (hle : levels ≤ levels') {statement : Statement}
    (h : StatementText levels statement s) : StatementText levels' statement s := by
  have hoperand (c : Clause) (s : List Char)
      (h : OperandText false (GroupTextWithin levels) c s) :
      OperandText false (GroupTextWithin levels') c s := h.mono (GroupTextWithin.mono hle)
  cases h with
  | operand h => exact .operand (hoperand _ _ h)
  | chain hseveral h => exact .chain hseveral (h.mono hoperand)
  | replacement h => exact .replacement h

/-- **A document within a limit is the same within a higher one.** -/
theorem DocumentText.mono (hle : levels ≤ levels') (h : DocumentText levels statements s) :
    DocumentText levels' statements s := by
  induction h with
  | blank h => exact .blank h
  | more hbefore h hafter hend _ ih => exact .more hbefore (h.mono hle) hafter hend ih

end PostFilter.Document
