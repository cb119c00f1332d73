import PostFilter.Ruleset.Stored

/-!
# Rule books

A rule book is the text of a user's rules with the document that the text means. Its text is
replaced as a whole, and only by a text that can be read; otherwise the book stays as it was.

Rulesets of the book are stored as documents and restored from them. A stored ruleset of other rules
is refused; one of another place is compiled again.
-/

namespace PostFilter

/-- The text of rules, and what it means. -/
structure RuleBook where
  source : String
  /-- A stamp that whoever replaces the text chooses. -/
  timestamp : UInt64
  document : Document
  fingerprint : UInt64

/-- Why a stored ruleset is not restored, or a ruleset not stored. -/
inductive StoreFault where
  | notADocument
  | fingerprintMismatch (stored computed : UInt64)
  deriving DecidableEq, Repr

namespace StoreFault

/-- The words before the description of a text that is not a document. -/
def notADocumentPreamble : String := "Invalid persisted ruleset"

/-- The words for a fault. -/
def message : StoreFault → String
  | .notADocument => notADocumentPreamble
  | .fingerprintMismatch stored computed =>
    "Fingerprint mismatch: stored " ++ Text.hex16 stored ++ ", computed " ++ Text.hex16 computed

end StoreFault

namespace RuleBook

/-- The book that no text was read for; its fingerprint is zero. -/
def blank : RuleBook := ⟨"", 0, {}, 0⟩

/-- The book of a text. -/
def read (source : String) (timestamp : UInt64) : Except SourceFault RuleBook := do
  let d ← Document.parse source
  pure ⟨source, timestamp, d, d.fingerprint⟩

/-- Replaces the text; also says whether the fingerprint changed. -/
def replace (b : RuleBook) (source : String) (timestamp : UInt64) :
    Except SourceFault (Bool × RuleBook) := do
  let next ← read source timestamp
  pure (next.fingerprint != b.fingerprint, next)

/-- The ruleset of the book at a place. -/
def compile (b : RuleBook) (place : Place) : Ruleset := b.document.compile place

/-- The document of a ruleset of this book. -/
def persist (b : RuleBook) (r : Ruleset) : Except StoreFault String :=
  if r.fingerprint = b.fingerprint then .ok (r.store b.timestamp)
  else .error (.fingerprintMismatch r.fingerprint b.fingerprint)

/-- The ruleset at a place, taken from a document if that is its own. -/
def restore (b : RuleBook) (text : String) (place : Place) : Except StoreFault Ruleset :=
  match StoredRuleset.load? text with
  | none => .error .notADocument
  | some stored =>
    let r := stored.ruleset
    if r.fingerprint = b.fingerprint then
      .ok (if r.isCurrent place b.fingerprint then r else b.compile place)
    else .error (.fingerprintMismatch r.fingerprint b.fingerprint)

end RuleBook

end PostFilter
