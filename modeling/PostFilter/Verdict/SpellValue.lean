import PostFilter.Clause.Basic
import PostFilter.Inquiry.Lookup
import PostFilter.Spam.Detect

/-!
# Verdicts — the value of one spell

Most kinds are decided by what the post itself says (`Spell.holds`). Three kinds may ask for
missing facts (`Spell.examine`): they go through the attachments or videos in order and stop at the
first match; a failed lookup only leaves that one out.

A spell that found no match while a lookup failed is undecided. It is false, negated or not, so a
service that cannot be reached never hides a post on its own (`SpellValue.value`).

An argument that does not fit the kind never matches.
-/

namespace PostFilter

/-- What may be set for deciding. -/
structure Settings where
  /-- The number of bits in which a perceptual hash may differ. -/
  maxDistance : Nat := 6
  limits : SpamLimits := {}

/-- The value of a spell before its negation. -/
structure SpellValue where
  matched : Bool
  /-- Whether a lookup failed on the way. -/
  lookupFailed : Bool
  deriving DecidableEq, Repr

namespace SpellValue

/-- A value that needed no lookup. -/
def known (matched : Bool) : SpellValue := ⟨matched, false⟩

/-- Whether the spell neither matched nor could be looked at completely. -/
def isUndecided (v : SpellValue) : Bool := v.lookupFailed && !v.matched

/-- The value after the spell's own negation. -/
def value (v : SpellValue) (negated : Bool) : Bool := !v.isUndecided && v.matched != negated

end SpellValue

open Text

/-- Whether a text in small letters contains another one. -/
def containsWords (lowercaseText words : String) : Bool :=
  occursIn (lowercase words).toList lowercaseText.toList

/-- The number of bits in which two hashes differ. -/
def hammingDistance (a b : UInt64) : Nat :=
  (List.range 64).countP fun i => (a ^^^ b).toNat.testBit i

namespace Spell

/-- Whether the post itself decides for the spell, its negation left aside. -/
def holds (settings : Settings) (post : Post) (s : Spell) : Bool :=
  match s.kind, s.argument with
  | .words, some (.text words) => containsWords post.lowercaseText words
  | .exp, some (.pattern p) => p.isMatch post.text
  | .exph, some (.pattern p) => p.isMatch post.html
  | .imgn, some (.pattern p) => post.attachments.any fun a => p.isMatch a.name
  | .subj, none => !post.subject.isEmpty
  | .subj, some (.pattern p) => p.isMatch post.subject
  | .name, none => !post.name.isEmpty
  | .name, some (.text name) => occursIn name.toList post.name.toList
  | .trip, none => post.signature.isSome
  | .trip, some (.text trip) => post.signature == some trip
  | .img, none => !post.attachments.isEmpty
  | .img, some (.image bound) =>
    post.attachments.any fun a => bound.holds a.weight a.dimensions?
  | .sage, _ => post.sage
  | .op, _ => post.isOpening
  | .tlen, none => !post.text.isEmpty
  | .tlen, some (.ranges ranges) =>
    ranges.any fun r => r.has (UInt64.ofNat post.text.length)
  | .all, _ => true
  | .wipe, none => (Checks.all.first? settings.limits post.text).isSome
  | .wipe, some (.checks checks) => (checks.first? settings.limits post.text).isSome
  | .num, some (.ranges ranges) => ranges.any fun r => r.has post.position
  | _, _ => false

/-- Goes through items in order and stops at the first whose fact passes; `failed` says whether a
lookup failed before. -/
def search {α β : Type} (fact : α → PostInquiry (Option β)) (passes : β → Bool) (failed : Bool) :
    List α → PostInquiry SpellValue
  | [] => .done ⟨false, failed⟩
  | item :: rest =>
    (fact item).bind fun
      | none => search fact passes true rest
      | some b => if passes b then .done ⟨true, failed⟩ else search fact passes failed rest

/-- The value of a spell whose kind may ask. -/
def lookUp (settings : Settings) (post : Post) (s : Spell) : PostInquiry SpellValue :=
  match s.kind, s.argument with
  | .ihash, some (.signature target) =>
    search Attachment.findSignature (fun hash => hammingDistance hash target ≤ settings.maxDistance)
      false post.attachments
  | .video, none => .done (.known !post.videos.isEmpty)
  | .video, some (.pattern p) => search Video.findTitle p.isMatch false post.videos
  | .vauthor, some (.text author) =>
    search Video.findAuthor (fun found => lowercase found == lowercase author) false post.videos
  | _, _ => .done (.known false)

/-- The value of a spell before its negation. -/
def examine (settings : Settings) (post : Post) (s : Spell) : PostInquiry SpellValue :=
  if s.kind.mayAsk then lookUp settings post s else .done (.known (holds settings post s))

end Spell

end PostFilter
