import PostFilter.Verdict.Evaluation
import PostFilter.Verdict.SpellValue

/-!
# Verdicts — the account of a decision

What a decision looks at when a table gives the answers to all lookups, told without inquiries. A
spell that may ask makes one probe for each attachment or video, from first to last, and stops at
the first hit; a probe takes a lookup only where the post does not hold the fact. A group visits the
spells of its members, except of those that are passed over.
-/

namespace PostFilter

/-- A fact about one attachment or video, as a spell asks for it. -/
structure Probe where
  /-- The lookup that the probe takes; none if the post holds the fact. -/
  lookup : Option Lookup
  /-- Whether the spell matches by the fact; nothing if the lookup fails. -/
  hit : Option Bool

namespace Probe

/-- The probe of a fact that the post may hold. -/
def ofFact {α : Type} (known : Option α) (lookup : Lookup) (answer : Option α)
    (passes : α → Bool) : Probe :=
  match known with
  | some a => ⟨none, some (passes a)⟩
  | none => ⟨some lookup, answer.map passes⟩

/-- The probes that are made, up to the first hit. -/
def made : List Probe → List Probe
  | [] => []
  | p :: rest => if p.hit == some true then [p] else p :: made rest

end Probe

open Text

namespace Spell

/-- The probes that a spell would make of a post if none were a hit. -/
def probes (settings : Settings) (post : Post) (services : Services) (s : Spell) : List Probe :=
  match s.kind, s.argument with
  | .ihash, some (.signature target) =>
    post.attachments.map fun a =>
      .ofFact a.signature (.signature a) (services (.signature a)) fun hash =>
        hammingDistance hash target ≤ settings.maxDistance
  | .video, some (.pattern p) =>
    post.videos.map fun v =>
      .ofFact v.title (.details v) ((services (.details v)).map VideoDetails.title) p.isMatch
  | .vauthor, some (.text author) =>
    post.videos.map fun v =>
      .ofFact v.author (.details v) ((services (.details v)).map VideoDetails.author) fun found =>
        lowercase found == lowercase author
  | _, _ => []

/-- The lookups that a spell takes, in order. -/
def lookups (settings : Settings) (post : Post) (services : Services) (s : Spell) : List Lookup :=
  (Probe.made (s.probes settings post services)).filterMap Probe.lookup

/-- Whether a lookup of the spell fails. -/
def hasFailure (settings : Settings) (post : Post) (services : Services) (s : Spell) : Bool :=
  (Probe.made (s.probes settings post services)).any fun p => p.hit.isNone

/-- Whether a spell matches, its negation left aside. -/
def matchesPost (settings : Settings) (post : Post) (services : Services) (s : Spell) : Bool :=
  if s.kind.mayAsk then
    (s.kind == .video && s.argument.isNone && !post.videos.isEmpty) ||
      (s.probes settings post services).any fun p => p.hit == some true
  else s.holds settings post

/-- What a spell counts as, its negation included; it is false if it found no match while a lookup
failed. -/
def countsAs (settings : Settings) (post : Post) (services : Services) (s : Spell) : Bool :=
  if s.hasFailure settings post services && !s.matchesPost settings post services then false
  else s.matchesPost settings post services != s.negated

end Spell

/-- Whether a value so far is final in front of this joiner: false before `&`, true before `|`. -/
def Joiner.isSettledBy : Joiner → Bool → Bool
  | .and, value => !value
  | .or, value => value

mutual

/-- The spells of a clause that are looked at, in order. -/
def Clause.visited (value : Spell → Bool) : Clause → List Spell
  | .spell s => [s]
  | .group g => g.visited value

/-- The spells of a group that are looked at, in order. -/
def Group.visited (value : Spell → Bool) : Group → List Spell
  | ⟨_, members⟩ => Group.foldVisited value none .or members

/-- The spells of members that are looked at behind the value `found`; `link` is the joiner before
them. -/
def Group.foldVisited (value : Spell → Bool) (found : Option Bool) (link : Joiner) :
    List Member → List Spell
  | [] => []
  | ⟨c, joiner⟩ :: rest =>
    if found.any link.isSettledBy then Group.foldVisited value found joiner rest
    else c.visited value ++ Group.foldVisited value (some (c.isTrue value)) joiner rest

end

end PostFilter
