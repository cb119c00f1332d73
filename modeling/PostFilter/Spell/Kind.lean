/-!
# Spells — kinds

A spell is one predicate on posts, and `Kind` says which. The set of kinds is closed. Their order is
the order in which a canonical chain tries them, so the kinds that may have to ask an outside
service come last.
-/

namespace PostFilter

/-- The predicates of the rule language. -/
inductive Kind where
  /-- The small-letter text contains a text. -/
  | words
  /-- A pattern matches the plain text. -/
  | exp
  /-- A pattern matches the markup. -/
  | exph
  /-- A pattern matches a file name. -/
  | imgn
  /-- There is a subject, or a pattern matches it. -/
  | subj
  /-- There is an author name, or it contains a text. -/
  | name
  /-- There is an author signature, or it equals a text. -/
  | trip
  /-- There is an attachment, or one is within a bound. -/
  | img
  /-- The post has the sage mark. -/
  | sage
  /-- The post opens its thread. -/
  | op
  /-- There is text, or its length is within ranges. -/
  | tlen
  /-- Always true. -/
  | all
  /-- A spam check fires. -/
  | wipe
  /-- The position in the thread is within ranges. -/
  | num
  /-- The perceptual hash of an attachment is close to a given one. -/
  | ihash
  /-- There is a video, or a pattern matches the title of one. -/
  | video
  /-- The author of a video has a given name. -/
  | vauthor
  deriving DecidableEq, Repr, Inhabited

/-- What the parenthesized argument of a spell looks like. -/
inductive ArgumentShape where
  | none
  | text
  | pattern
  | ranges
  | image
  | checks
  | signature
  deriving DecidableEq, Repr

/-- Whether a spell takes an argument. -/
inductive ArgumentRequirement where
  | forbidden
  | optional
  | required
  deriving DecidableEq, Repr

namespace Kind

/-- Every kind, in canonical order. -/
def inOrder : List Kind :=
  [words, exp, exph, imgn, subj, name, trip, img, sage, op, tlen, all, wipe, num, ihash, video,
    vauthor]

/-- The place in the canonical order. -/
def rank : Kind → Nat
  | words => 0
  | exp => 1
  | exph => 2
  | imgn => 3
  | subj => 4
  | name => 5
  | trip => 6
  | img => 7
  | sage => 8
  | op => 9
  | tlen => 10
  | all => 11
  | wipe => 12
  | num => 13
  | ihash => 14
  | video => 15
  | vauthor => 16

/-- The word written after `#`. -/
def word : Kind → String
  | words => "words"
  | exp => "exp"
  | exph => "exph"
  | imgn => "imgn"
  | subj => "subj"
  | name => "name"
  | trip => "trip"
  | img => "img"
  | sage => "sage"
  | op => "op"
  | tlen => "tlen"
  | all => "all"
  | wipe => "wipe"
  | num => "num"
  | ihash => "ihash"
  | video => "video"
  | vauthor => "vauthor"

/-- The kind with a given word. -/
def ofWord? (word : String) : Option Kind := inOrder.find? fun k => k.word == word

/-- The kind as it is written. -/
def text (k : Kind) : String := "#" ++ k.word

/-- The shape of the argument. -/
def shape : Kind → ArgumentShape
  | words | name | trip | vauthor => .text
  | exp | exph | imgn | subj | video => .pattern
  | tlen | num => .ranges
  | img => .image
  | wipe => .checks
  | ihash => .signature
  | sage | op | all => .none

/-- Whether the argument must, may or must not be there. -/
def requirement : Kind → ArgumentRequirement
  | sage | op | all => .forbidden
  | words | exp | exph | imgn | num | ihash | vauthor => .required
  | subj | name | trip | img | tlen | wipe | video => .optional

/-- Whether a spell of this kind may have to ask an outside service. -/
def mayAsk : Kind → Bool
  | ihash | video | vauthor => true
  | _ => false

/-- Kinds are ordered by rank. -/
def compare (a b : Kind) : Ordering := Ord.compare a.rank b.rank

end Kind

end PostFilter
