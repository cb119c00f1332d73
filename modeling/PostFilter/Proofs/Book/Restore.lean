import PostFilter.Book.Basic
import PostFilter.Proofs.Reading.Documents
import PostFilter.Proofs.Ruleset.Stored

/-!
# Rule books — storing and restoring

A book stores its own rulesets and no others (`persist_compile`), and what it restores from a stored
ruleset depends on that alone, since loading gives back all of it (`restore_store`). So whatever
place a book's ruleset was stored for, the book restores what it would compile
(`restore_persist`).
-/

namespace PostFilter.RuleBook

/-- The rulesets of a book that was read have its fingerprint. -/
theorem fingerprint_compile {source : String} {timestamp : UInt64} {b : RuleBook}
    (h : read source timestamp = .ok b) (place : Place) :
    (b.compile place).fingerprint = b.fingerprint := by
  rw [read] at h
  cases hd : Document.parse source with
  | error fault =>
      rw [hd] at h
      cases h
  | ok d =>
      rw [hd] at h
      cases h
      rfl

/-- A book stores the rulesets that it compiles. -/
theorem persist_compile {b : RuleBook} {place : Place}
    (h : (b.compile place).fingerprint = b.fingerprint) :
    b.persist (b.compile place) = .ok ((b.compile place).store b.timestamp) :=
  if_pos h

/-- What is restored from a stored ruleset. -/
theorem restore_store (b : RuleBook) (r : Ruleset) (timestamp : UInt64) (place : Place) :
    b.restore (r.store timestamp) place =
      if (Json.ofStored ⟨timestamp, r⟩).depth < Json.nestLimit then
        if r.fingerprint = b.fingerprint then
          .ok (if r.isCurrent place b.fingerprint then r else b.compile place)
        else .error (.fingerprintMismatch r.fingerprint b.fingerprint)
      else .error .notADocument := by
  rw [restore, Ruleset.load?_store]
  by_cases hdepth : (Json.ofStored ⟨timestamp, r⟩).depth < Json.nestLimit
  · rw [if_pos hdepth, if_pos hdepth]
  · rw [if_neg hdepth, if_neg hdepth]

/-- A ruleset of the book that is current at a place is what the book compiles there. -/
theorem compile_of_isCurrent {b : RuleBook} {place place' : Place}
    (h : (b.compile place).isCurrent place' b.fingerprint = true) :
    b.compile place = b.compile place' := by
  rw [Ruleset.isCurrent, Bool.and_eq_true, beq_iff_eq, beq_iff_eq] at h
  exact congrArg b.compile h.2

/-- **Loading undoes storing, and restoring gives what compiling would.** The first holds of every
ruleset, however it was made, and the second of the rulesets of a book, stored for one place and
restored at any other; both as long as the document is not nested too deep to be read. -/
theorem restore_persist :
    (∀ (r : Ruleset) (timestamp : UInt64),
      (Json.ofStored ⟨timestamp, r⟩).depth < Json.nestLimit →
      StoredRuleset.load? (r.store timestamp) = some ⟨timestamp, r⟩) ∧
    ∀ (source : String) (timestamp : UInt64) (b : RuleBook), read source timestamp = .ok b →
      ∀ place place' : Place,
        (Json.ofStored ⟨b.timestamp, b.compile place⟩).depth < Json.nestLimit →
        ∃ text, b.persist (b.compile place) = .ok text ∧
          b.restore text place' = .ok (b.compile place') := by
  refine ⟨fun r timestamp hdepth => ?_, fun source timestamp b hb place place' hdepth => ?_⟩
  · rw [Ruleset.load?_store, if_pos hdepth]
  · have hfingerprint := fingerprint_compile hb place
    refine ⟨_, persist_compile hfingerprint, ?_⟩
    rw [restore_store, if_pos hdepth, if_pos hfingerprint]
    split
    · rename_i hcurrent
      rw [compile_of_isCurrent hcurrent]
    · rfl

/-- A ruleset with a check that has no name and a text of quotes, and a book of one scoped rule. -/
theorem restore_persist_of_scoped :
    let wipe : Spell := { kind := .wipe, argument := some (.checks ⟨128⟩) }
    let name : Spell := { kind := .name, argument := some (.text "\"quoted\"\n") }
    let r : Ruleset :=
      ⟨0, some ⟨true, [⟨.spell wipe, .and⟩, ⟨.spell name, .or⟩]⟩, [], [], ⟨some "b", some 7⟩⟩
    StoredRuleset.load? (r.store 1) = some ⟨1, r⟩ ∧
    ∃ b, read "#op[b]" 1 = .ok b ∧ ∃ text, b.persist (b.compile {}) = .ok text ∧
      b.restore text ⟨some "b", none⟩ = .ok (b.compile ⟨some "b", none⟩) := by
  intro wipe name r
  obtain ⟨hload, hrestore⟩ := restore_persist
  refine ⟨hload r 1 (by decide +kernel), ?_⟩
  let op : Spell := { kind := .op, scope := some ⟨"b", .anywhere⟩ }
  have hop : op.IsWellFormed := by
    refine ⟨(by decide : Kind.op.requirement ≠ .required), ?_⟩
    rintro _ ⟨⟩
    exact ⟨by decide, List.all_eq_true.1 (by decide +kernel)⟩
  have hd : (Document.mk (some (Group.single (.spell op))) [] []).IsWellFormed := by
    refine ⟨?_, by rintro _ ⟨⟩, by rintro _ ⟨⟩⟩
    rintro _ ⟨⟩
    exact ⟨rfl, hop, rfl⟩
  have hparse : Document.parse "#op[b]" = .ok ⟨some (Group.single (.spell op)), [], []⟩ :=
    Document.parse_of_text hd (by decide +kernel) (by decide +kernel) (by decide)
  have hread : read "#op[b]" 1 = .ok ⟨"#op[b]", 1, ⟨some (Group.single (.spell op)), [], []⟩,
      Document.fingerprint ⟨some (Group.single (.spell op)), [], []⟩⟩ := by
    rw [read, hparse]
    rfl
  exact ⟨_, hread, hrestore _ _ _ hread {} ⟨some "b", none⟩ (by decide +kernel)⟩

end PostFilter.RuleBook
