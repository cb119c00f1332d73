import PostFilter.Clause.Printer
import PostFilter.Document.Basic

/-!
# Documents — written form

The filter comes first, then the incoming and the outgoing replacement rules, each on a line of its
own.
-/

namespace PostFilter.Document

/-- The lines of a document: the filter, which may itself be broken, and the rules. -/
def lines (layout : Layout) (d : Document) : List String :=
  (d.filter.map fun g => g.rootText layout).toList ++
    (d.incoming.map (Replacement.text .incoming) ++ d.outgoing.map (Replacement.text .outgoing))

/-- The document as it is written. -/
def text (d : Document) (layout : Layout := {}) : String := "\n".intercalate (d.lines layout)

end PostFilter.Document
