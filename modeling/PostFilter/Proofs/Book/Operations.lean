import PostFilter.Book.Operations
import PostFilter.Proofs.Grammar.Arguments

/-!
# Rule books — what operations leave

Every operation leaves a book as it is or makes it the book of a text that was read
(`RuleBook.next_eq_or_isRead`). So a book that was read stays one: its document is what its text
means (`RuleBook.isRead_after`).
-/

namespace PostFilter.RuleBook

open Document (bind_eq_ok_iff map_eq_ok_iff)

variable {b b' : RuleBook} {source : String} {timestamp : UInt64}

/-- Whether the book is that of its text. -/
def IsRead (b : RuleBook) : Prop := read b.source b.timestamp = .ok b

theorem read_eq_ok_iff :
    read source timestamp = .ok b ↔ ∃ d, Document.parse source = .ok d ∧
      b = ⟨source, timestamp, d, d.fingerprint⟩ := by
  refine bind_eq_ok_iff.trans (exists_congr fun d => and_congr_right fun _ => ?_)
  exact ⟨fun h => (Except.ok.inj h).symm, fun h => congrArg _ h.symm⟩

theorem isRead_of_read (h : read source timestamp = .ok b) : b.IsRead := by
  obtain ⟨d, -, rfl⟩ := read_eq_ok_iff.1 h
  exact h

theorem IsRead.parse_source (h : b.IsRead) : Document.parse b.source = .ok b.document := by
  obtain ⟨d, hd, hb⟩ := read_eq_ok_iff.1 h
  rw [hb]
  exact hd

theorem replace_eq_ok_iff {changed : Bool} :
    b.replace source timestamp = .ok (changed, b') ↔
      read source timestamp = .ok b' ∧ changed = (b'.fingerprint != b.fingerprint) := by
  refine bind_eq_ok_iff.trans ⟨?_, ?_⟩
  · rintro ⟨next, hnext, h⟩
    obtain ⟨rfl, rfl⟩ := Prod.mk.inj (Except.ok.inj h)
    exact ⟨hnext, rfl⟩
  · rintro ⟨hread, rfl⟩
    exact ⟨b', hread, rfl⟩

/-- **What appending a clause can do**: nothing, where a statement is written as the clause is, or
reading the text with the clause at its end. -/
theorem append_eq_ok_iff {c : Clause} {outcome : HideOutcome} :
    b.append c timestamp = .ok (outcome, b') ↔
      ((b.statements.any fun s => s.text == c.text) = true ∧ outcome = .present ∧ b' = b) ∨
      ((b.statements.any fun s => s.text == c.text) = false ∧ outcome = .added ∧
        read (b.extended (statementText c)) timestamp = .ok b') := by
  rw [append]
  cases b.statements.any fun s => s.text == c.text with
  | true =>
      rw [if_pos rfl]
      constructor
      · intro h
        obtain ⟨rfl, rfl⟩ := Prod.mk.inj (Except.ok.inj h)
        exact Or.inl ⟨rfl, rfl, rfl⟩
      · rintro (⟨-, rfl, rfl⟩ | ⟨h, -⟩)
        · rfl
        · cases h
  | false =>
      rw [if_neg Bool.false_ne_true]
      constructor
      · intro h
        obtain ⟨⟨changed, next⟩, hnext, h⟩ := bind_eq_ok_iff.1 h
        obtain ⟨rfl, rfl⟩ := Prod.mk.inj (Except.ok.inj h)
        exact Or.inr ⟨rfl, rfl, (replace_eq_ok_iff.1 hnext).1⟩
      · rintro (⟨h, -⟩ | ⟨-, rfl, hread⟩)
        · cases h
        · exact bind_eq_ok_iff.2 ⟨(_, b'), replace_eq_ok_iff.2 ⟨hread, rfl⟩, rfl⟩

/-- A clause is refused because of the text with it. -/
theorem parse_of_append_eq_error {c : Clause} {fault : SourceFault}
    (h : b.append c timestamp = .error fault) :
    Document.parse (b.extended (statementText c)) = .error fault := by
  rw [append] at h
  split at h
  · cases h
  · rw [replace, read] at h
    cases hparse : Document.parse (b.extended (statementText c)) with
    | error e =>
        rw [hparse] at h
        cases h
        rfl
    | ok d =>
        rw [hparse] at h
        cases h

/-! ### One operation -/

/-- **What adding a rule leaves.** The book is as it was unless the rule was added, and then it is
that of a text that was read. -/
def Leaves (b : RuleBook) (outcome : HideOutcome) (b' : RuleBook) : Prop :=
  outcome ≠ .added ∧ b' = b ∨ outcome = .added ∧ b'.IsRead

theorem leaves_of_append {c : Clause} {outcome : HideOutcome}
    (h : b.append c timestamp = .ok (outcome, b')) : b.Leaves outcome b' := by
  rcases append_eq_ok_iff.1 h with ⟨-, rfl, rfl⟩ | ⟨-, rfl, hread⟩
  · exact Or.inl ⟨nofun, rfl⟩
  · exact Or.inr ⟨rfl, isRead_of_read hread⟩

theorem leaves_of_rejected {outcome : HideOutcome}
    (h : (.ok (.rejected, b) : Except SourceFault (HideOutcome × RuleBook)) = .ok (outcome, b')) :
    b.Leaves outcome b' := by
  obtain ⟨rfl, rfl⟩ := Prod.mk.inj (Except.ok.inj h)
  exact Or.inl ⟨nofun, rfl⟩

theorem leaves_of_hideName {name : String} {scope : Option Scope} {outcome : HideOutcome}
    (h : b.hideName name scope timestamp = .ok (outcome, b')) : b.Leaves outcome b' := by
  rw [hideName] at h
  split at h
  · exact leaves_of_rejected h
  · exact leaves_of_append h

theorem leaves_of_hidePattern {rule : PatternRule} {outcome : HideOutcome}
    (h : b.hidePattern rule timestamp = .ok (outcome, b')) : b.Leaves outcome b' := by
  rw [hidePattern] at h
  split at h
  · exact leaves_of_rejected h
  · exact leaves_of_append h

theorem Leaves.eq_or_isRead {outcome : HideOutcome} (h : b.Leaves outcome b') :
    b' = b ∨ b'.IsRead :=
  h.imp And.right And.right

/-- **An operation leaves the book as it is or makes it the book of a text.** -/
theorem perform_eq_or_isRead {operation : BookOperation}
    (hb' : b.perform timestamp operation = .ok b') : b' = b ∨ b'.IsRead := by
  cases operation with
  | replace source =>
      obtain ⟨⟨changed, _⟩, hreplace, rfl⟩ := map_eq_ok_iff.1 hb'
      exact Or.inr (isRead_of_read (replace_eq_ok_iff.1 hreplace).1)
  | append c =>
      obtain ⟨⟨outcome, _⟩, happend, rfl⟩ := map_eq_ok_iff.1 hb'
      exact (leaves_of_append happend).eq_or_isRead
  | hideName name scope =>
      obtain ⟨⟨outcome, _⟩, hhide, rfl⟩ := map_eq_ok_iff.1 hb'
      exact (leaves_of_hideName hhide).eq_or_isRead
  | hidePattern rule =>
      obtain ⟨⟨outcome, _⟩, hhide, rfl⟩ := map_eq_ok_iff.1 hb'
      exact (leaves_of_hidePattern hhide).eq_or_isRead

theorem next_of_error {operation : BookOperation} {fault : SourceFault}
    (h : b.perform timestamp operation = .error fault) : b.next (operation, timestamp) = b := by
  rw [next, h]

theorem next_eq_or_isRead (b : RuleBook) (operation : BookOperation × UInt64) :
    b.next operation = b ∨ (b.next operation).IsRead := by
  rw [next]
  split
  · rename_i b' hb'
    exact perform_eq_or_isRead hb'
  · exact Or.inl rfl

/-! ### Many operations -/

theorem after_cons (b : RuleBook) (operation : BookOperation × UInt64)
    (operations : List (BookOperation × UInt64)) :
    b.after (operation :: operations) = (b.next operation).after operations := rfl

/-- Operations leave the book as it is or make it the book of a text. -/
theorem after_eq_or_isRead (b : RuleBook) (operations : List (BookOperation × UInt64)) :
    b.after operations = b ∨ (b.after operations).IsRead := by
  induction operations generalizing b with
  | nil => exact Or.inl rfl
  | cons operation operations ih =>
      rw [after_cons]
      rcases ih (b.next operation) with heq | hread
      · rw [heq]
        exact next_eq_or_isRead b operation
      · exact Or.inr hread

/-- **A book that was read stays one**, whatever is done with it. -/
theorem isRead_after (h : b.IsRead) (operations : List (BookOperation × UInt64)) :
    (b.after operations).IsRead := by
  rcases after_eq_or_isRead b operations with heq | hread
  · rwa [heq]
  · exact hread

end PostFilter.RuleBook
