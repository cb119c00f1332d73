import PostFilter.Proofs.Reading.Depth

/-!
# Documents — limits only refuse

The same text is read twice, within lower and within higher limits. The limit on parentheses is
asked in one place only, where a parenthesis opens (`limited_readGroupWithin`); every reader around
it hands on what it is handed. So the two readings agree in their document or in their fault, or the
one within lower limits is stopped by a limit (`parse_limited`).

* `parse_of_lower_limits` — what is read within lower limits is the same within higher ones, and
  what is refused within lower limits alone is refused for the limits.
-/

namespace PostFilter.Document

open Text

/-- Whether a reading within lower limits is the reading within higher ones, or is stopped where
parentheses are nested deeper than `limit`. -/
def Limited {α : Type} (limit : Nat) (lower upper : Except Failure α) : Prop :=
  lower = upper ∨ Fails lower (.nestedTooDeep limit)

section Readers

variable {limit limit' levels levels' : Nat} {α β : Type}

theorem Limited.map {lower upper : Except Failure α} (h : Limited limit lower upper) (f : α → β) :
    Limited limit (lower.map f) (upper.map f) := by
  rcases h with rfl | hfails
  · exact Or.inl rfl
  · exact Or.inr (hfails.map f)

section Chains

variable {operand operand' : (s : List Char) → Except Failure (Taking Clause s)}
  (hoperand : ∀ s, Limited limit (operand s) (operand' s))
include hoperand

theorem limited_readChain (inside : Bool) (s : List Char) :
    Limited limit (readChain inside operand s) (readChain inside operand' s) := by
  rw [readChain, readChain]
  rcases hoperand s with heq | ⟨rest, hfails⟩
  · rw [heq]
    -- Both readings have the same operand, and so the same joiner behind it.
    cases operand' s with
    | error failure => exact Or.inl rfl
    | ok c =>
        dsimp only
        cases hjoiner : readJoiner? inside c.rest with
        | error failure => exact Or.inl rfl
        | ok j =>
            dsimp only
            cases j.value with
            | none => exact Or.inl rfl
            | some joiner =>
                have hlt : j.rest.length < s.length := Nat.lt_of_le_of_lt j.le c.lt
                dsimp only
                rcases limited_readChain inside j.rest with hmore | ⟨rest, hmore⟩
                · rw [hmore]
                  exact Or.inl rfl
                · rw [hmore]
                  exact Or.inr ⟨rest, rfl⟩
  · rw [hfails]
    exact Or.inr ⟨rest, rfl⟩
termination_by s.length

theorem limited_readGroup (whole s : List Char) :
    Limited limit (readGroup operand whole s) (readGroup operand' whole s) := by
  rw [readGroup, readGroup]
  split
  · exact Or.inl rfl
  · rcases limited_readChain hoperand true (skippedAny s).rest with heq | ⟨rest, hfails⟩
    · rw [heq]
      exact Or.inl rfl
    · rw [hfails]
      exact Or.inr ⟨rest, rfl⟩

end Chains

section Operands

variable {group group' : (whole s : List Char) → Except Failure (Reading Group s)}
  (hgroup : ∀ whole s, Limited limit (group whole s) (group' whole s))
include hgroup

theorem limited_readPlainOperand (inside : Bool) (s : List Char) :
    Limited limit (readPlainOperand inside group s) (readPlainOperand inside group' s) := by
  cases s with
  | nil => exact Or.inl rfl
  | cons c rest =>
      rw [readPlainOperand, readPlainOperand]
      split
      · exact (hgroup (c :: rest) rest).map _
      · exact Or.inl rfl

theorem limited_readOperand (inside : Bool) (s : List Char) :
    Limited limit (readOperand inside group s) (readOperand inside group' s) := by
  rw [readOperand, readOperand]
  exact (limited_readPlainOperand hgroup inside _).map _

end Operands

/-- **A group within fewer levels is the group within more, or is nested too deep.** -/
theorem limited_readGroupWithin : ∀ {levels levels' : Nat}, levels ≤ levels' →
    ∀ whole s : List Char, Limited limit (readGroupWithin limit levels whole s)
      (readGroupWithin limit' levels' whole s)
  | 0, _, _, whole, _ => Or.inr ⟨whole, rfl⟩
  | _ + 1, _ + 1, hle, whole, s =>
      limited_readGroup (limited_readOperand
        (limited_readGroupWithin (Nat.le_of_succ_le_succ hle)) true) whole s

/-! ### Statements -/

variable (hlimit : limit ≤ limit')
include hlimit

theorem limited_readStatement (s : List Char) :
    Limited limit (readStatement limit s) (readStatement limit' s) := by
  cases s with
  | nil => exact Or.inl rfl
  | cons c rest =>
      rw [readStatement, readStatement]
      cases direction? (c :: rest) with
      | some direction => exact Or.inl rfl
      | none =>
          rcases limited_readChain (limited_readOperand (limited_readGroupWithin hlimit) false)
            false (c :: rest) with heq | ⟨rest, hfails⟩
          · rw [readStatementChain, readStatementChain, heq]
            exact Or.inl rfl
          · rw [readStatementChain, hfails]
            exact Or.inr ⟨rest, rfl⟩

theorem limited_readStatements (s : List Char) :
    Limited limit (readStatements limit s) (readStatements limit' s) := by
  rw [readStatements, readStatements]
  split
  · exact Or.inl rfl
  · rcases limited_readStatement hlimit (skippedAny s).rest with heq | ⟨rest, hfails⟩
    · rw [heq]
      cases readStatement limit' (skippedAny s).rest with
      | error failure => exact Or.inl rfl
      | ok statement =>
          have hlt : statement.rest.length < s.length :=
            Nat.lt_of_lt_of_le statement.lt (skippedAny s).le
          dsimp only
          rcases limited_readStatements statement.rest with hmore | ⟨rest, hmore⟩
          · rw [hmore]
            exact Or.inl rfl
          · rw [hmore]
            exact Or.inr ⟨rest, rfl⟩
    · rw [hfails]
      exact Or.inr ⟨rest, rfl⟩
termination_by s.length

end Readers

/-! ### Documents -/

section Documents

variable {lower upper : Limits} (hsize : lower.size ≤ upper.size) (hdepth : lower.depth ≤ upper.depth)
include hsize hdepth

/-- **Lower limits change nothing but that they may refuse.** -/
theorem parse_limited (source : String) : parse source lower = parse source upper ∨
    ∃ fault, parse source lower = .error fault ∧ fault.cause.kind = .limitExceeded := by
  rcases Nat.lt_or_ge lower.size (byteLength source.toList) with hlarge | hfits
  · obtain ⟨position, he⟩ := parse_of_lt_size hlarge
    exact Or.inr ⟨_, he, rfl⟩
  · have hlower : ¬ lower.size < byteLength source.toList := Nat.not_lt.2 hfits
    have hupper : ¬ upper.size < byteLength source.toList := Nat.not_lt.2 (hfits.trans hsize)
    rw [parse, parse, readDocument, readDocument, if_neg hlower, if_neg hupper]
    rcases limited_readStatements hdepth source.toList with heq | ⟨rest, hfails⟩
    · rw [heq]
      exact Or.inl rfl
    · rw [hfails]
      exact Or.inr ⟨_, rfl, rfl⟩

/-- **Limits only refuse.** What is read within lower limits is the same document within higher
ones. What is read within higher limits, but not within lower ones, is refused there because a limit
is exceeded. Any other fault is the same within both. -/
theorem parse_of_lower_limits (source : String) :
    (∀ d, parse source lower = .ok d → parse source upper = .ok d) ∧
      (∀ d fault, parse source upper = .ok d → parse source lower = .error fault →
        fault.cause.kind = .limitExceeded) ∧
      ∀ fault, parse source lower = .error fault → fault.cause.kind ≠ .limitExceeded →
        parse source upper = .error fault := by
  rcases parse_limited hsize hdepth source with heq | ⟨fault, hfault, hkind⟩
  · rw [heq]
    refine ⟨fun _ h => h, fun d fault hok herror => ?_, fun _ h _ => h⟩
    rw [hok] at herror
    cases herror
  · rw [hfault]
    refine ⟨fun d h => (nomatch h), fun d fault' _ h => ?_, fun fault' h hne => ?_⟩
    · cases h
      exact hkind
    · cases h
      exact absurd hkind hne

end Documents

/-- The text `((#op))` within a single level of parentheses, and within as many as there are by
default. -/
theorem parse_of_lower_limits_of_nested :
    let op : Clause := .spell { kind := .op }
    let d : Document := { filter := some (.single (.group (.single (.group (.single op))))) }
    let lower : Limits := { depth := 1 }
    lower.size ≤ 1048576 ∧ lower.depth ≤ 64 ∧ parse "((#op))" = .ok d ∧
      ∃ fault, parse "((#op))" lower = .error fault ∧ fault.cause.kind = .limitExceeded := by
  intro op d lower
  have hop : op.IsWellFormed := ⟨(by decide : Kind.op.requirement ≠ .required), by rintro _ ⟨⟩⟩
  have hd : d.IsWellFormed := by
    refine ⟨?_, by rintro _ ⟨⟩, by rintro _ ⟨⟩⟩
    rintro _ ⟨⟩
    exact ⟨rfl, ⟨⟨hop, rfl⟩, rfl⟩, rfl⟩
  have htext : d.text = "((#op))" := by decide +kernel
  have hbytes : byteLength d.text.toList ≤ 1048576 := by
    rw [htext]
    decide
  have hok : parse "((#op))" = .ok d := parse_of_text hd htext (htext ▸ hbytes) (by decide)
  have hsize : lower.size ≤ ({} : Limits).size := Nat.le_refl _
  have hdepth : lower.depth ≤ ({} : Limits).depth := by decide
  obtain ⟨position, herror⟩ :=
    parse_text_of_lt_depth hd.isReadable {} hbytes (by decide : lower.depth < d.depth)
  rw [htext] at herror
  obtain ⟨-, hlimit, -⟩ := parse_of_lower_limits hsize hdepth "((#op))"
  exact ⟨hsize, hdepth, hok, _, herror, hlimit d _ hok herror⟩

end PostFilter.Document
