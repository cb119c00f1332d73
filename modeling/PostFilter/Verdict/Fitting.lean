import PostFilter.Document.WellFormed
import PostFilter.Verdict.SpellValue

/-!
# Verdicts — arguments that fit

A spell may hold an argument that its kind has no use for, and then it is examined as one that never
matches. Here the same examination says so: `Spell.examine?` has the cases of `Spell.examine` and is
`none` where that falls back.

`Kind.fits` tells from the requirement and the shape of a kind alone whether there is a case.
-/

namespace PostFilter
namespace Spell

/-- Whether the post itself decides for the spell, its negation left aside; `none` if the argument
does not fit the kind. -/
def holds? (settings : Settings) (post : Post) (s : Spell) : Option Bool :=
  match s.kind, s.argument with
  | .words, some (.text words) => some (containsWords post.lowercaseText words)
  | .exp, some (.pattern p) => some (p.isMatch post.text)
  | .exph, some (.pattern p) => some (p.isMatch post.html)
  | .imgn, some (.pattern p) => some (post.attachments.any fun a => p.isMatch a.name)
  | .subj, none => some (!post.subject.isEmpty)
  | .subj, some (.pattern p) => some (p.isMatch post.subject)
  | .name, none => some (!post.name.isEmpty)
  | .name, some (.text name) => some (Text.occursIn name.toList post.name.toList)
  | .trip, none => some post.signature.isSome
  | .trip, some (.text trip) => some (post.signature == some trip)
  | .img, none => some (!post.attachments.isEmpty)
  | .img, some (.image bound) =>
    some (post.attachments.any fun a => bound.holds a.weight a.dimensions?)
  | .sage, _ => some post.sage
  | .op, _ => some post.isOpening
  | .tlen, none => some (!post.text.isEmpty)
  | .tlen, some (.ranges ranges) =>
    some (ranges.any fun r => r.has (UInt64.ofNat post.text.length))
  | .all, _ => some true
  | .wipe, none => some (Checks.all.first? settings.limits post.text).isSome
  | .wipe, some (.checks checks) => some (checks.first? settings.limits post.text).isSome
  | .num, some (.ranges ranges) => some (ranges.any fun r => r.has post.position)
  | _, _ => none

/-- The value of a spell whose kind may ask; `none` if the argument does not fit the kind. -/
def lookUp? (settings : Settings) (post : Post) (s : Spell) : Option (PostInquiry SpellValue) :=
  match s.kind, s.argument with
  | .ihash, some (.signature target) =>
    some (search Attachment.findSignature
      (fun hash => hammingDistance hash target ≤ settings.maxDistance) false post.attachments)
  | .video, none => some (.done (.known !post.videos.isEmpty))
  | .video, some (.pattern p) => some (search Video.findTitle p.isMatch false post.videos)
  | .vauthor, some (.text author) =>
    some (search Video.findAuthor
      (fun found => Text.lowercase found == Text.lowercase author) false post.videos)
  | _, _ => none

/-- The value of a spell before its negation; `none` if the argument does not fit the kind. -/
def examine? (settings : Settings) (post : Post) (s : Spell) : Option (PostInquiry SpellValue) :=
  if s.kind.mayAsk then lookUp? settings post s
  else (holds? settings post s).map fun matched => .done (.known matched)

end Spell

/-- Whether a kind has a use for this argument, or for none. A kind that may not have an argument
does not look at it. -/
def Kind.fits (kind : Kind) : Option Argument → Bool
  | none => kind.requirement != .required
  | some a => kind.requirement == .forbidden || a.shape == kind.shape

/-- Whether the argument of every spell fits its kind, whatever is set and whatever post is looked
at: no spell is examined as one that has no case. -/
def Group.Fits (g : Group) : Prop :=
  ∀ s ∈ g.spells, ∀ settings post, s.examine? settings post = some (s.examine settings post)

end PostFilter
