import PostFilter.Proofs.Book.Operations
import PostFilter.Proofs.Book.Restore
import PostFilter.Proofs.Grammar.Documents

/-!
# Rule books — what a book holds belongs together

The document of a book is what its text means, whatever was done with the book, and an operation
that is refused or adds nothing leaves the book alone. The fingerprint of a book that was read is
that of its document, so the book stores every ruleset that it compiles.

The blank book is the exception. Its fingerprint is zero, which is not that of the empty document;
it stores none of its own rulesets. It is not blank any more as soon as an operation does something
to it (`RuleBook.consistent_after`).
-/

namespace PostFilter.RuleBook

variable {b : RuleBook}

/-- Whether a book is one to begin with: the blank one, or that of a text. -/
def IsInitial (b : RuleBook) : Prop :=
  b = blank ∨ ∃ source timestamp, read source timestamp = .ok b

/-! ### The blank book -/

theorem parse_blank : Document.parse blank.source = .ok blank.document :=
  Document.parse_eq_ok_iff.2 ⟨Nat.zero_le _, [], .blank nofun, rfl⟩

theorem fingerprint_blank : blank.fingerprint ≠ blank.document.fingerprint := by
  decide +kernel

theorem IsRead.fingerprint_eq (h : b.IsRead) : b.fingerprint = b.document.fingerprint := by
  obtain ⟨d, -, hb⟩ := read_eq_ok_iff.1 h
  rw [hb]

theorem IsRead.ne_blank (h : b.IsRead) : b ≠ blank := by
  rintro rfl
  exact fingerprint_blank h.fingerprint_eq

theorem IsInitial.eq_or_isRead (h : b.IsInitial) : b = blank ∨ b.IsRead :=
  h.imp id fun ⟨_, _, hread⟩ => isRead_of_read hread

/-- A book is blank behind some operations if it was so before, and none of them did anything. -/
theorem after_eq_blank_iff (h : b = blank ∨ b.IsRead) (operations : List (BookOperation × UInt64)) :
    b.after operations = blank ↔
      b = blank ∧ ∀ operation ∈ operations, blank.next operation = blank := by
  induction operations generalizing b with
  | nil => simp [after]
  | cons operation operations ih =>
      rw [List.forall_mem_cons]
      rcases h with rfl | hread
      · rw [after_cons, ih (next_eq_or_isRead blank operation)]
        exact ⟨fun h => ⟨rfl, h⟩, And.right⟩
      · exact iff_of_false (isRead_after hread _).ne_blank fun h => hread.ne_blank h.1

/-- The blank book stores none of its rulesets: they have the fingerprint of the empty text. -/
theorem persist_blank (place : Place) : blank.persist (blank.compile place) =
    .error (.fingerprintMismatch 0xcbf29ce484222325 0) := by
  have hcompile : (blank.compile place).fingerprint = blank.document.fingerprint := rfl
  have hempty : blank.document.fingerprint = 0xcbf29ce484222325 := by decide +kernel
  rw [persist, hcompile, if_neg (Ne.symm fingerprint_blank), hempty]
  rfl

/-! ### Consistency -/

/-- A book stores what it compiles exactly if its fingerprint is that of its document. -/
theorem persist_compile_iff {place : Place} :
    (∃ text, b.persist (b.compile place) = .ok text) ↔
      b.fingerprint = b.document.fingerprint := by
  have hcompile : (b.compile place).fingerprint = b.document.fingerprint := rfl
  rw [persist, hcompile]
  split
  · rename_i h
    exact iff_of_true ⟨_, rfl⟩ h.symm
  · rename_i h
    exact iff_of_false nofun (Ne.symm h)

/-- What belongs together in a book that may be blank. -/
structure IsConsistent (b : RuleBook) : Prop where
  document : Document.parse b.source = .ok b.document
  fingerprint : b.fingerprint = b.document.fingerprint ↔ b ≠ blank
  /-- The book stores its rulesets of all places, or of none. -/
  persist : ∀ place, (∃ text, b.persist (b.compile place) = .ok text) ↔ b ≠ blank
  /-- Nothing that is refused changes the book. -/
  refused : ∀ operation timestamp fault, b.perform timestamp operation = .error fault →
    b.next (operation, timestamp) = b
  /-- Nothing that does not add a rule changes the book. -/
  idle : ∀ outcome timestamp b', outcome ≠ .added →
    ((∃ c, b.append c timestamp = .ok (outcome, b')) ∨
      (∃ name scope, b.hideName name scope timestamp = .ok (outcome, b')) ∨
      ∃ rule, b.hidePattern rule timestamp = .ok (outcome, b')) → b' = b

theorem isConsistent (h : b = blank ∨ b.IsRead) : b.IsConsistent := by
  have hfingerprint : b.fingerprint = b.document.fingerprint ↔ b ≠ blank := by
    rcases h with rfl | hread
    · exact iff_of_false fingerprint_blank (not_not.2 rfl)
    · exact iff_of_true hread.fingerprint_eq hread.ne_blank
  exact {
    document := by
      rcases h with rfl | hread
      · exact parse_blank
      · exact hread.parse_source
    fingerprint := hfingerprint
    persist := fun place => persist_compile_iff.trans hfingerprint
    refused := fun _ _ _ => next_of_error
    idle := by
      intro outcome timestamp b' hadded hadding
      have hleaves : b.Leaves outcome b' := by
        rcases hadding with ⟨c, hok⟩ | ⟨name, scope, hok⟩ | ⟨rule, hok⟩
        · exact leaves_of_append hok
        · exact leaves_of_hideName hok
        · exact leaves_of_hidePattern hok
      exact (hleaves.resolve_right fun h => hadded h.1).2 }

/-- **A book that was read is always consistent, and the blank book as soon as it is changed.**
Whatever is done with a book, it holds what its text means. Its fingerprint is that of its document,
and it stores its rulesets, unless it was blank and no operation did anything. A blank book stores
none of its rulesets. -/
theorem consistent_after (h : b.IsInitial) (operations : List (BookOperation × UInt64)) :
    (b.after operations).IsConsistent ∧
      (b.after operations = blank ↔
        b = blank ∧ ∀ operation ∈ operations, blank.next operation = blank) ∧
      ∀ place, blank.persist (blank.compile place) =
        .error (.fingerprintMismatch 0xcbf29ce484222325 0) := by
  have hinitial := h.eq_or_isRead
  refine ⟨isConsistent ?_, after_eq_blank_iff hinitial operations, persist_blank⟩
  rcases after_eq_or_isRead b operations with heq | hread
  · rwa [heq]
  · exact Or.inr hread

/-- A name of blanks and a text that is no document do nothing to the blank book, nor to the book
that is read from the same, empty text. -/
theorem consistent_after_of_refused :
    let refused : List (BookOperation × UInt64) := [(.hideName " " none, 2), (.replace "#", 3)]
    (blank.after refused).IsConsistent ∧ blank.after refused = blank ∧
      ∃ b, read "" 1 = .ok b ∧ (b.after refused).IsConsistent ∧ b.after refused ≠ blank := by
  intro refused
  have hhide : blank.next (.hideName " " none, 2) = blank := rfl
  have hno : (blank.perform 3 (.replace "#")).toBool = false := by decide +kernel
  have hreplace : blank.next (.replace "#", 3) = blank := by
    cases h : blank.perform 3 (.replace "#") with
    | ok b =>
        rw [h] at hno
        cases hno
    | error fault => exact next_of_error h
  obtain ⟨hblank, hiff, -⟩ := consistent_after (Or.inl rfl) refused
  let b : RuleBook := ⟨"", 1, blank.document, blank.document.fingerprint⟩
  have hread : read "" 1 = .ok b := read_eq_ok_iff.2 ⟨_, parse_blank, rfl⟩
  obtain ⟨hconsistent, hiff', -⟩ := consistent_after (Or.inr ⟨_, _, hread⟩) refused
  refine ⟨hblank, hiff.2 ⟨rfl, by simp [refused, hhide, hreplace]⟩, b, hread, hconsistent, ?_⟩
  exact fun h => (isRead_of_read hread).ne_blank (hiff'.1 h).1

end PostFilter.RuleBook
