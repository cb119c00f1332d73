import PostFilter.Inquiry.Basic
import PostFilter.Post.Basic

/-!
# Inquiries — lookups

What spells ask about a post: the perceptual hash of an attachment and the details of a video. A
lookup that fails has the answer `none`. Facts that the post already holds are not asked for.
-/

namespace PostFilter

/-- A question to an outside service. -/
inductive Lookup where
  | signature (attachment : Attachment)
  | details (video : Video)
  deriving DecidableEq

/-- The answers of a lookup; `none` is a failure. -/
abbrev Lookup.Answer : Lookup → Type
  | .signature _ => Option UInt64
  | .details _ => Option VideoDetails

/-- A computation about a post. -/
abbrev PostInquiry (α : Type) := Inquiry Lookup Lookup.Answer α

/-- A table of the answers to all lookups. -/
abbrev Services := (lookup : Lookup) → lookup.Answer

/-- The service that fails on every lookup. -/
def Services.unavailable : Services
  | .signature _ => none
  | .details _ => none

/-- Asks for the perceptual hash of an attachment. -/
def Lookup.askSignature (a : Attachment) : PostInquiry (Option UInt64) :=
  .ask (Lookup.signature a) fun hash => .done hash

/-- Asks for the details of a video. -/
def Lookup.askDetails (v : Video) : PostInquiry (Option VideoDetails) :=
  .ask (Lookup.details v) fun details => .done details

/-- The perceptual hash of an attachment. -/
def Attachment.findSignature (a : Attachment) : PostInquiry (Option UInt64) :=
  match a.signature with
  | some hash => .done (some hash)
  | none => Lookup.askSignature a

/-- The title of a video. -/
def Video.findTitle (v : Video) : PostInquiry (Option String) :=
  match v.title with
  | some title => .done (some title)
  | none => (Lookup.askDetails v).bind fun d => .done (d.map VideoDetails.title)

/-- The author of a video. -/
def Video.findAuthor (v : Video) : PostInquiry (Option String) :=
  match v.author with
  | some author => .done (some author)
  | none => (Lookup.askDetails v).bind fun d => .done (d.map VideoDetails.author)

end PostFilter
