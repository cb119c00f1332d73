import PostFilter.CharSet.Property
import PostFilter.Spam.Checks
import PostFilter.Text.Lowercase
import PostFilter.Text.Words

/-!
# Spam — detection

When a spam check fires on a text. Shares are taken of characters, and every check has a least size
below which it never fires, so that a short post is not taken for spam by accident.

`Check.fires` says whether one check fires, `Checks.first?` which of a set fires first.
-/

namespace PostFilter

/-- The bounds of the spam checks. -/
structure SpamLimits where
  /-- Lines below which repeated lines do not count. -/
  leastLines : Nat := 6
  /-- Copies of a line that count as repetition. -/
  repeatedLines : Nat := 5
  /-- Words below which repeated words do not count. -/
  leastWords : Nat := 10
  /-- The greatest share of distinct words in a text of repeated words. -/
  distinctShare : Float := 0.25
  /-- The length from which a word is long. -/
  longWord : Nat := 70
  /-- Characters below which shares do not count. -/
  leastLength : Nat := 30
  /-- The share of symbols, digits or blanks above which they are noise. -/
  noiseShare : Float := 0.4
  /-- The share of capitals among letters above which they are shouting. -/
  capitalShare : Float := 0.6
  /-- Letters below which capitals do not count. -/
  leastLetters : Nat := 10

namespace Spam

open Text Letter

/-- Whether `part` is more than the given share of `whole`. -/
def exceeds (part whole : Nat) (share : Float) : Bool :=
  Float.ofNat part > Float.ofNat whole * share

/-- A line that is no blank stands often enough, and makes up more than a quarter of all lines. -/
def repeatsLines (limits : SpamLimits) (text : List Char) : Bool :=
  let lines := trimmedLines text
  limits.leastLines ≤ lines.length &&
    lines.eraseDups.any fun line =>
      let copies := lines.count line
      !line.isEmpty && limits.repeatedLines ≤ copies && lines.length < 4 * copies

/-- Whether `c` stands between words: a blank, or punctuation within a sentence. -/
def separatesWords (c : Char) : Bool :=
  isBlank c || ['.', ',', '!', '?', ':', ';', '>', '-'].contains c

/-- The words in small letters have few distinct ones among them. -/
def repeatsWords (limits : SpamLimits) (text : List Char) : Bool :=
  let words := (wordsBetween separatesWords text).map fun word => lowercase (String.ofList word)
  limits.leastWords ≤ words.length &&
    Float.ofNat words.eraseDups.length ≤ Float.ofNat words.length * limits.distinctShare

/-- A word that is no link is long. -/
def hasLongWord (limits : SpamLimits) (text : List Char) : Bool :=
  (words text).any fun word =>
    !occursIn [':', '/', '/'] word && limits.longWord ≤ word.length

/-- Characters of one class make up too much of a text that is long enough. -/
def abounds (limits : SpamLimits) (p : Char → Bool) (text : List Char) : Bool :=
  limits.leastLength ≤ text.length && exceeds (text.countP p) text.length limits.noiseShare

/-- Whether `c` is a letter that is a capital or a small one. -/
def isCaseLetter (c : Char) : Bool := isAlphabetic c && (isUppercase c || isLowercase c)

/-- Capitals make up too much of the letters that have case. -/
def shouts (limits : SpamLimits) (text : List Char) : Bool :=
  let letters := text.filter isCaseLetter
  limits.leastLetters ≤ letters.length &&
    exceeds (letters.countP isUppercase) letters.length limits.capitalShare

end Spam

/-- Whether a check fires on a text. -/
def Check.fires (limits : SpamLimits) (text : String) : Check → Bool
  | .sameLines => Spam.repeatsLines limits text.toList
  | .sameWords => Spam.repeatsWords limits text.toList
  | .longWords => Spam.hasLongWord limits text.toList
  | .symbols =>
    Spam.abounds limits (fun c => !Letter.isAlphanumeric c && !Text.isBlank c) text.toList
  | .capsLock => Spam.shouts limits text.toList
  | .numbers => Spam.abounds limits Letter.isNumeric text.toList
  | .whitespace => Spam.abounds limits Text.isBlank text.toList

/-- The first check of a set, in bit order, that fires on a text. -/
def Checks.first? (cs : Checks) (limits : SpamLimits) (text : String) : Option Check :=
  cs.toList.find? fun c => c.fires limits text

end PostFilter
