import PostFilter.Clause.Canonical
import PostFilter.Document.Printer
import PostFilter.Document.Reader
import PostFilter.Ruleset.Fingerprint

/-!
# Rulesets

A ruleset is a document made ready for one place: its filter in canonical form, the replacement
rules that apply there, and the fingerprint of the document. The fingerprint is taken of the
canonical form without a place, so it tells documents apart and not places; a ruleset serves again
only where both are the same (`Ruleset.isCurrent`).
-/

namespace PostFilter

/-- Rules ready for use at one place. -/
structure Ruleset where
  fingerprint : UInt64
  filter : Option Group
  incoming : List Replacement
  outgoing : List Replacement
  place : Place

namespace Document

/-- The document whose text is fingerprinted: the canonical filter without a place, and all
replacement rules. -/
def canonical (d : Document) : Document :=
  { d with filter := d.filter.bind (Group.canonical? none) }

/-- The fingerprint of a document. -/
def fingerprint (d : Document) : UInt64 := Fingerprint.ofText d.canonical.text

/-- The ruleset of a document at a place. -/
def compile (d : Document) (place : Place) : Ruleset where
  fingerprint := d.fingerprint
  filter := d.filter.bind (Group.canonical? (some place))
  incoming := Replacement.admitted (some place) d.incoming
  outgoing := Replacement.admitted (some place) d.outgoing
  place := place

end Document

namespace Ruleset

/-- The rules as a document. -/
def document (r : Ruleset) : Document := ⟨r.filter, r.incoming, r.outgoing⟩

/-- The ruleset as it is written. -/
def text (r : Ruleset) : String := r.document.text

/-- A ruleset of given parts, which are taken as they are; the fingerprint is that of their text. -/
def ofDocument (d : Document) (place : Place) : Ruleset :=
  ⟨Fingerprint.ofText d.text, d.filter, d.incoming, d.outgoing, place⟩

/-- Whether the ruleset belongs to rules with the given fingerprint, at the given place. -/
def isCurrent (r : Ruleset) (place : Place) (fingerprint : UInt64) : Bool :=
  r.fingerprint == fingerprint && r.place == place

/-- Whether no post can match. -/
def isEmpty (r : Ruleset) : Bool := r.filter.isNone

/-- A post's text as it is shown. -/
def replaceIncoming (r : Ruleset) (text : String) : String := Replacement.applyAll r.incoming text

/-- A text as it is sent. -/
def replaceOutgoing (r : Ruleset) (text : String) : String := Replacement.applyAll r.outgoing text

/-- The spells of the filter, from left to right. -/
def spells (r : Ruleset) : List Spell := (r.filter.map Group.spells).getD []

end Ruleset

/-- Reads a rule list and compiles it for a place. -/
def compileSource (source : String) (place : Place) (limits : Document.Limits := {}) :
    Except SourceFault Ruleset :=
  (Document.parse source limits).map fun d => d.compile place

end PostFilter
