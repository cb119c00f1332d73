import PostFilter.Proofs.Book.Appending
import PostFilter.Proofs.Reading.Injective
import PostFilter.Proofs.Reading.Unended

/-!
# Rule books — clauses that are refused

A clause that is read back is appended to every book with room for it, unless it is a statement
already (`RuleBook.append_of_isAppendable`). One that is not read back is appended to none: its text
is that of no statement, and behind the text of the book the reading stops at it
(`RuleBook.append_of_isRefused`). A chain is not read back if one of its clauses is not, and those
before it are.
-/

namespace PostFilter

open Document Text

/-- Whether a clause is read back as a statement, with a bound on its nesting. -/
structure Clause.IsAppendable (levels : Nat) (c : Clause) : Prop where
  well : c.IsWellFormed
  statement : c.IsStatement
  depth : c.depth ≤ levels

/-- Whether a clause is refused, as an operand and as a statement, whatever the limits. -/
structure Clause.IsRefused (c : Clause) : Prop where
  operand : ∀ (inside : Bool) (limit levels : Nat) (tail : List Char), '/' ∉ tail →
    Stops continuesSpell tail → ∃ cause,
      Fails (readOperand inside (readGroupWithin limit levels) (c.text.toList ++ tail)) cause
  begins : ∃ d tail, (RuleBook.statementText c).toList = d :: tail ∧ beginsOperand d = true
  statement : ∀ limit, ∃ cause,
    Fails (readStatement limit (RuleBook.statementText c).toList) cause

/-- Whether a chain of members is refused, wherever it stands. -/
def Group.IsRefusedChain (members : List Member) : Prop :=
  ∀ (blanks : List Char), (∀ c ∈ blanks, isAnyBlank c = true) →
    ∀ (inside : Bool) (limit levels : Nat) (tail : List Char), '/' ∉ tail →
      Stops continuesSpell tail → ∃ cause,
        Fails (readChain inside (readOperand inside (readGroupWithin limit levels))
          (joinedText blanks members ++ tail)) cause

namespace Document

/-! ### Groups and spells -/

theorem readStatement_of_chain {limit : Nat} {blanks : List Char} {members : List Member}
    (hne : members ≠ [])
    (h : ∃ cause, Fails (readStatementChain limit (joinedText blanks members)) cause) :
    ∃ cause, Fails (readStatement limit (joinedText blanks members)) cause := by
  obtain ⟨cause, h⟩ := h
  obtain ⟨d, tail, htext, -⟩ := joinedText_eq_cons blanks hne
  have hdirection := direction?_joinedText blanks hne (stops_nil (p := Char.isAlphanum))
  rw [List.append_nil] at hdirection
  exact ⟨cause, readStatement_fails (by rw [htext]; exact List.cons_ne_nil _ _) hdirection h⟩

theorem isRefused_group {members : List Member} (hne : members ≠ [])
    (h : Group.IsRefusedChain members) : (Clause.group ⟨false, members⟩).IsRefused where
  operand inside limit levels tail htail hstops := by
    have htext : (Clause.group ⟨false, members⟩).text.toList ++ tail =
        '(' :: (joinedText [' '] members ++ ')' :: tail) := by
      simp [toList_text_clause, Clause.isNegated, plainText]
    rw [htext]
    have hgroup : ∃ cause, ∀ whole, Fails (readGroupWithin limit levels whole
        (joinedText [' '] members ++ ')' :: tail)) cause := by
      cases levels with
      | zero => exact ⟨_, fun whole => ⟨whole, rfl⟩⟩
      | succ levels =>
          obtain ⟨cause, hchain⟩ := h [' '] (List.forall_mem_singleton.2 rfl) true limit levels
            (')' :: tail) (by simp [htail]) (stops_cons rfl)
          exact ⟨cause, readGroup_fails hne hchain⟩
    obtain ⟨cause, hgroup⟩ := hgroup
    exact ⟨cause, readOperand_fails false (stops_cons rfl) (stops_cons rfl)
      (readPlainOperand_fails hgroup)⟩
  begins := by
    obtain ⟨blanks, -, htext⟩ := toList_rootText (g := ⟨false, members⟩) rfl {}
    rw [RuleBook.statementText, Group.defaultText, htext]
    exact joinedText_eq_cons blanks hne
  statement limit := by
    obtain ⟨blanks, hblanks, htext⟩ := toList_rootText (g := ⟨false, members⟩) rfl {}
    have hchain := h blanks hblanks false limit limit [] List.not_mem_nil stops_nil
    rw [List.append_nil] at hchain
    rw [RuleBook.statementText, Group.defaultText, htext]
    exact readStatement_of_chain hne hchain

/-- A spell is refused as a statement if it is as an operand. -/
theorem isRefused_spell {s : Spell} (h : ∀ (inside : Bool) (limit levels : Nat) (tail : List Char),
    '/' ∉ tail → Stops continuesSpell tail → ∃ cause, Fails (readOperand inside
      (readGroupWithin limit levels) ((Clause.spell s).text.toList ++ tail)) cause) :
    (Clause.spell s).IsRefused where
  operand := h
  begins := by
    obtain ⟨d, tail, htext, hd⟩ := text_eq_cons (.spell s)
    rw [Clause.text] at htext
    exact ⟨d, tail, htext, hd⟩
  statement limit := by
    have htext : (RuleBook.statementText (.spell s)).toList = joinedText [] [⟨.spell s, .or⟩] := by
      rw [joinedText, Clause.text, RuleBook.statementText]
    obtain ⟨cause, hfails⟩ := h false limit limit [] List.not_mem_nil stops_nil
    rw [List.append_nil] at hfails
    rw [htext]
    refine readStatement_of_chain (List.cons_ne_nil _ _) ⟨cause, ?_⟩
    rw [joinedText]
    exact readChain_of_operand hfails

/-! ### Chains -/

/-- A chain behind its first clause. -/
theorem chainMembers_cons (joiner : Joiner) (d : Clause) {cs : List Clause} (hne : cs ≠ []) :
    Group.chainMembers joiner (d :: cs) = ⟨d, joiner⟩ :: Group.chainMembers joiner cs := by
  cases cs with
  | nil => exact absurd rfl hne
  | cons c cs => rfl

theorem chainMembers_ne_nil (joiner : Joiner) {cs : List Clause} (hne : cs ≠ []) :
    Group.chainMembers joiner cs ≠ [] := by
  match cs, hne with
  | [c], _ => exact List.cons_ne_nil _ _
  | c :: d :: rest, _ => exact List.cons_ne_nil _ _

/-- Behind spells that are read, a chain is refused with its last clause. -/
theorem isRefusedChain_concat (joiner : Joiner) {c : Clause} (h : c.IsRefused) :
    ∀ {cs : List Clause}, (∀ d ∈ cs, d.IsAppendable 0) →
      Group.IsRefusedChain (Group.chainMembers joiner (cs ++ [c]))
  | [], _ => fun blanks _ inside limit levels tail htail hstops => by
      obtain ⟨cause, hfails⟩ := h.operand inside limit levels tail htail hstops
      rw [List.nil_append, Group.chainMembers, joinedText]
      exact ⟨cause, readChain_of_operand hfails⟩
  | d :: cs, hcs => fun blanks hblanks inside limit levels tail htail hstops => by
      obtain ⟨hd, hcs⟩ := List.forall_mem_cons.1 hcs
      have hne : cs ++ [c] ≠ [] := List.append_ne_nil_of_right_ne_nil cs (List.cons_ne_nil c [])
      obtain ⟨n, rest, hn⟩ := List.exists_cons_of_ne_nil (chainMembers_ne_nil joiner hne)
      obtain ⟨cause, hfails⟩ :=
        isRefusedChain_concat joiner h hcs blanks hblanks inside limit levels tail htail hstops
      rw [List.cons_append, chainMembers_cons joiner d hne, hn, joinedText_cons]
      rw [hn] at hfails
      exact ⟨cause, readChain_behind (fun rest hrest => readOperand_text limit d hd.well inside
        levels (Nat.le_trans hd.depth (Nat.zero_le levels)) rest hrest) hblanks
        (stops_joinedText (by decide) blanks (List.cons_ne_nil _ _) tail) hfails⟩

end Document

namespace RuleBook

/-! ### Books -/

variable {b b' : RuleBook} {c : Clause} {timestamp : UInt64}

/-- The book with the fingerprint of its document. -/
def settled (b : RuleBook) : RuleBook := { b with fingerprint := b.document.fingerprint }

section Settled
variable (hb : parse b.source = .ok b.document)
include hb

theorem isRead_settled : b.settled.IsRead := read_eq_ok_iff.2 ⟨b.document, hb, rfl⟩

theorem isWellFormed_of_mem_statements : ∀ c ∈ b.statements, c.IsWellFormed := by
  intro c hc
  rw [statements_eq, rootMembers] at hc
  cases hfilter : b.document.filter with
  | none =>
      rw [hfilter] at hc
      cases hc
  | some g =>
      rw [hfilter] at hc
      obtain ⟨m, hm, rfl⟩ := List.mem_map.1 hc
      obtain ⟨negated, members⟩ := g
      exact isWellFormed_of_mem ((parse_isWellFormed hb).filter _ hfilter).2 m hm

/-- A clause that is written like a statement is the statement. -/
theorem any_text_iff (hc : c.IsWellFormed) :
    (b.statements.any fun s => s.text == c.text) = true ↔ c ∈ b.statements := by
  rw [List.any_eq_true]
  constructor
  · rintro ⟨s, hs, htext⟩
    rwa [← clause_injective (isWellFormed_of_mem_statements hb s hs) hc (eq_of_beq htext)]
  · exact fun hmem => ⟨c, hmem, beq_self_eq_true c.text⟩

/-- **A clause that is read back is appended**, unless it is a statement already. -/
theorem append_of_isAppendable (hc : c.IsAppendable ({} : Limits).depth)
    (hsize : byteLength (b.extended (statementText c)).toList ≤ ({} : Limits).size)
    (timestamp : UInt64) :
    c ∈ b.statements ∧ b.append c timestamp = .ok (.present, b) ∨
      c ∉ b.statements ∧ ∃ b', b.append c timestamp = .ok (.added, b') ∧ b.IsAdded b' c := by
  have hiff := any_text_iff hb hc.well
  obtain ⟨outcome, b', hok⟩ := exists_append_eq_ok (isRead_settled hb) hc.well hc.statement hc.depth
    hsize timestamp
  rcases append_eq_ok_iff.1 hok with ⟨hany, -, -⟩ | ⟨hany, rfl, hread⟩
  · exact Or.inl ⟨hiff.1 hany, append_eq_ok_iff.2 (Or.inl ⟨hany, rfl, rfl⟩)⟩
  · refine Or.inr ⟨fun hmem => ?_, b', append_eq_ok_iff.2 (Or.inr ⟨hany, rfl, hread⟩), ?_⟩
    · exact Bool.false_ne_true (hany.symm.trans (hiff.2 hmem))
    · have hadded := isAdded_of_append (isRead_settled hb) hc.well hc.statement hok
      exact ⟨hadded.statements, hadded.filter, hadded.incoming, hadded.outgoing, hadded.verdict,
        hadded.again⟩

theorem readStatements_extended_fails (hc : c.IsRefused) : ∃ cause,
    Fails (readStatements ({} : Limits).depth (b.extended (statementText c)).toList) cause := by
  obtain ⟨-, statements, htext, -⟩ := parse_eq_ok_iff.1 hb
  obtain ⟨cause, hfails⟩ := hc.statement ({} : Limits).depth
  obtain ⟨d, tail, hbegins, hd⟩ := hc.begins
  have hne : (statementText c).toList ≠ [] := by rw [hbegins]; exact List.cons_ne_nil d tail
  have hstops {p : Char → Bool} (hp : p '!' = false ∧ p '#' = false ∧ p '(' = false) :
      Stops p (statementText c).toList := by
    rw [hbegins]
    exact stops_of_beginsOperand hp hd tail
  refine ⟨cause, ?_⟩
  rw [extended]
  split
  · exact readStatements_fails (dropWhile_eq_self (hstops (by decide))) hne hfails
  · rw [String.toList_append, String.toList_append, String.toList_ofList, List.append_assoc]
    exact htext.trimEnd.1.readStatements_fails (hstops (by decide)) (hstops (by decide)) hne hfails

/-- **A clause that is refused is not appended.** -/
theorem append_of_isRefused (hc : c.IsRefused) (timestamp : UInt64) :
    ∃ fault, b.append c timestamp = .error fault := by
  cases happend : b.append c timestamp with
  | error fault => exact ⟨fault, rfl⟩
  | ok added =>
      obtain ⟨outcome, b'⟩ := added
      rcases append_eq_ok_iff.1 happend with ⟨hany, -, -⟩ | ⟨-, -, hread⟩
      · -- A statement that is written like the clause is read, and the clause is not.
        obtain ⟨s, hs, htext⟩ := List.any_eq_true.1 hany
        have hread := readOperand_text 0 s (isWellFormed_of_mem_statements hb s hs) false
          s.depth (Nat.le_refl _) [] stops_nil
        rw [eq_of_beq htext] at hread
        obtain ⟨t, ht, -⟩ := hread
        obtain ⟨cause, rest, hfails⟩ :=
          hc.operand false 0 s.depth [] List.not_mem_nil stops_nil
        cases ht.symm.trans hfails
      · obtain ⟨d, hd, -⟩ := read_eq_ok_iff.1 hread
        obtain ⟨-, statements, htext, -⟩ := parse_eq_ok_iff.1 hd
        obtain ⟨cause, rest, hfails⟩ := readStatements_extended_fails hb hc
        cases (readStatements_iff.2 htext).symm.trans hfails

end Settled

end RuleBook

end PostFilter
