import PostFilter.CharSet.Binary
import PostFilter.CharSet.Script

/-!
# Char sets — classes of characters at boundaries

Text is divided into perceived characters, words and sentences by classes of characters, and each
of the three divisions has classes of its own. A character is in one class of each at most; what no
class holds is of the class "other", which is no set here.
-/

namespace PostFilter.CharSet

/-- The end of a line, as two characters. -/
def carriageReturn : CharSet := .single 13

def lineFeed : CharSet := .single 10

/-- The joiner that makes one sign of two. -/
def zeroWidthJoiner : CharSet := .single 0x200D

/-- Format characters that stand inside words and signs. -/
def innerFormat : List CharSet := [.range 0x200C 0x200D, .range 0xE0020 0xE007F]

/-- Codes without a character that are not shown. -/
def unassignedIgnorable : CharSet := ⟨#[
  (0x2065, 0x2065), (0xFFF0, 0xFFF8), (0xE0000, 0xE0000), (0xE0002, 0xE001F), (0xE0080, 0xE00FF),
  (0xE01F0, 0xE0FFF)]⟩

/-! ### Perceived characters -/

/-- Letters that are written over or before the consonant behind them. -/
def leadingLetter : CharSet := ⟨#[
  (0xD4E, 0xD4E), (0x111C2, 0x111C3), (0x113D1, 0x113D1), (0x1193F, 0x1193F), (0x11941, 0x11941),
  (0x11A3A, 0x11A3A), (0x11A84, 0x11A89), (0x11D46, 0x11D46), (0x11F02, 0x11F02)]⟩

/-- Spacing marks that begin a sign of their own. -/
def standingMark : CharSet := ⟨#[
  (0x102B, 0x102C), (0x1038, 0x1038), (0x1062, 0x1064), (0x1067, 0x106D), (0x1083, 0x1083),
  (0x1087, 0x108C), (0x108F, 0x108F), (0x109A, 0x109C), (0x1A61, 0x1A61), (0x1A63, 0x1A64),
  (0xAA7B, 0xAA7B), (0xAA7D, 0xAA7D), (0x11720, 0x11721)]⟩

/-- Letters that are counted as spacing marks. -/
def leaningLetter : CharSet := ⟨#[(0xE33, 0xE33), (0xEB3, 0xEB3)]⟩

/-- Hangul syllables, all of them. -/
def hangulSyllable : CharSet := .range 0xAC00 0xD7A3

/-- Hangul syllables without a final consonant: every 28th syllable. -/
def openSyllable : CharSet :=
  ⟨((List.range 399).map fun k => (0xAC00 + 28 * k, 0xAC00 + 28 * k)).toArray⟩

/-- The classes by which perceived characters are divided. -/
def graphemeClass? : String → Option Recipe
  | "cr" => some ⟨[carriageReturn], []⟩
  | "lf" => some ⟨[lineFeed], []⟩
  | "control" | "cn" =>
    some ⟨[control, format, lineSeparator, paragraphSeparator, unassignedIgnorable],
      [carriageReturn, lineFeed, prependedMark] ++ innerFormat⟩
  | "extend" | "ex" => some ⟨emojiModifier :: extending, []⟩
  | "zwj" => some ⟨[zeroWidthJoiner], []⟩
  | "regionalindicator" | "ri" => some ⟨[regionalIndicator], []⟩
  | "prepend" | "pp" => some ⟨[prependedMark, leadingLetter], []⟩
  | "spacingmark" | "sm" =>
    some ⟨[spacingMark, leaningLetter], [otherExtension, standingMark]⟩
  | "l" => some ⟨[.range 0x1100 0x115F, .range 0xA960 0xA97C], []⟩
  | "v" =>
    some ⟨[.range 0x1160 0x11A7, .range 0xD7B0 0xD7C6, .single 0x16D63, .range 0x16D67 0x16D6A],
      []⟩
  | "t" => some ⟨[.range 0x11A8 0x11FF, .range 0xD7CB 0xD7FB], []⟩
  | "lv" => some ⟨[openSyllable], []⟩
  | "lvt" => some ⟨[hangulSyllable], [openSyllable]⟩
  | _ => none

/-! ### Words -/

/-- Marks that extend a word. -/
def wordExtension : List CharSet := spacingMark :: emojiModifier :: extending

/-- Scripts that are written without blanks between words. -/
def unspacedScripts : List CharSet :=
  ["thai", "lao", "khmer", "myanmar", "taile", "newtailue", "taitham", "taiviet", "ahom"].filterMap
    fun name => (script? name).map Script.set

def hiragana : List CharSet := ((script? "hiragana").map Script.set).toList

/-- Katakana and the signs that are used with it. -/
def katakanaWord : List CharSet :=
  ((script? "katakana").map Script.set).toList ++
    [.range 0x3031 0x3035, .range 0x309B 0x309C, .single 0x30A0, .single 0x30FC, .single 0xFF70]

def hebrewLetter : CharSet := ⟨#[
  (0x5D0, 0x5EA), (0x5EF, 0x5F2), (0xFB1D, 0xFB1D), (0xFB1F, 0xFB28), (0xFB2A, 0xFB36),
  (0xFB38, 0xFB3C), (0xFB3E, 0xFB3E), (0xFB40, 0xFB41), (0xFB43, 0xFB44), (0xFB46, 0xFB4F)]⟩

/-- Signs that stand in words like letters. -/
def letterlikeSign : CharSet := ⟨#[
  (0x2C2, 0x2C5), (0x2D2, 0x2D7), (0x2DE, 0x2DF), (0x2E5, 0x2EB), (0x2ED, 0x2ED), (0x2EF, 0x2FF),
  (0x55A, 0x55C), (0x55E, 0x55E), (0x58A, 0x58A), (0x5F3, 0x5F3), (0x70F, 0x70F),
  (0xA708, 0xA716), (0xA720, 0xA721), (0xA789, 0xA78A), (0xAB5B, 0xAB5B)]⟩

/-- Signs that stand in numbers like digits. -/
def digitlikeSign : CharSet := ⟨#[
  (0x600, 0x605), (0x66B, 0x66B), (0x6DD, 0x6DD), (0x890, 0x891), (0x8E2, 0x8E2), (0x19DA, 0x19DA),
  (0x110BD, 0x110BD), (0x110CD, 0x110CD)]⟩

/-- The classes by which words are divided. -/
def wordClass? : String → Option Recipe
  | "cr" => some ⟨[carriageReturn], []⟩
  | "lf" => some ⟨[lineFeed], []⟩
  | "newline" | "nl" => some ⟨[.range 11 12, .single 0x85, lineSeparator, paragraphSeparator], []⟩
  | "extend" => some ⟨wordExtension, []⟩
  | "zwj" => some ⟨[zeroWidthJoiner], []⟩
  | "format" | "fo" => some ⟨[format], [.single 0x200B, prependedMark] ++ innerFormat⟩
  | "regionalindicator" | "ri" => some ⟨[regionalIndicator], []⟩
  | "katakana" | "ka" => some ⟨katakanaWord, []⟩
  | "hebrewletter" | "hl" => some ⟨[hebrewLetter], []⟩
  | "aletter" | "le" =>
    some ⟨letterlikeSign :: alphabetic,
      [hebrewLetter, ideographic] ++ unspacedScripts ++ hiragana ++ katakanaWord ++ wordExtension⟩
  | "singlequote" | "sq" => some ⟨[.single 0x27], []⟩
  | "doublequote" | "dq" => some ⟨[.single 0x22], []⟩
  | "midletter" | "ml" => some ⟨[midLetter], []⟩
  | "midnumlet" | "mb" => some ⟨[midNumLet], []⟩
  | "midnum" | "mn" => some ⟨[midNum], []⟩
  | "numeric" | "nu" => some ⟨[decimalDigit, digitlikeSign], []⟩
  | "extendnumlet" | "ex" => some ⟨[connectorPunctuation, .single 0x202F], []⟩
  | "wsegspace" => some ⟨[spaceSeparator], [.single 0xA0, .single 0x2007, .single 0x202F]⟩
  | _ => none

/-! ### Sentences -/

/-- Marks that extend a sentence. -/
def sentenceExtension : List CharSet := spacingMark :: zeroWidthJoiner :: extending

/-- Full stops, which do not always end a sentence. -/
def fullStop : CharSet := ⟨#[
  (0x2E, 0x2E), (0x2024, 0x2024), (0xFE52, 0xFE52), (0xFF0E, 0xFF0E)]⟩

/-- Signs inside a sentence. -/
def sentenceContinuation : CharSet := ⟨#[
  (0x2C, 0x2D), (0x3A, 0x3B), (0x37E, 0x37E), (0x55D, 0x55D), (0x60C, 0x60D), (0x7F8, 0x7F8),
  (0x1802, 0x1802), (0x1808, 0x1808), (0x2013, 0x2014), (0x3001, 0x3001), (0xFE10, 0xFE11),
  (0xFE13, 0xFE14), (0xFE31, 0xFE32), (0xFE50, 0xFE51), (0xFE54, 0xFE55), (0xFE58, 0xFE58),
  (0xFE63, 0xFE63), (0xFF0C, 0xFF0D), (0xFF1A, 0xFF1B), (0xFF64, 0xFF64)]⟩

/-- Quotes that are neither brackets nor opening or closing quotes by category. -/
def otherQuote : CharSet := ⟨#[
  (0x22, 0x22), (0x27, 0x27), (0x275B, 0x2760), (0x2E00, 0x2E01), (0x2E06, 0x2E08),
  (0x2E0B, 0x2E0B), (0x1F676, 0x1F678)]⟩

/-- The classes by which sentences are divided. -/
def sentenceClass? : String → Option Recipe
  | "cr" => some ⟨[carriageReturn], []⟩
  | "lf" => some ⟨[lineFeed], []⟩
  | "sep" | "se" => some ⟨[.single 0x85, lineSeparator, paragraphSeparator], []⟩
  | "extend" | "ex" => some ⟨sentenceExtension, []⟩
  | "format" | "fo" =>
    some ⟨[format], [.range 0x600 0x605, .single 0x6DD, .range 0x890 0x891, .single 0x8E2,
      .single 0x110BD, .single 0x110CD] ++ innerFormat⟩
  | "sp" => some ⟨[.single 9, .range 11 12, spaceSeparator], []⟩
  | "lower" | "lo" => some ⟨smallCharacters, georgianSmall :: extending⟩
  | "upper" | "up" => some ⟨titlecaseLetter :: capitalCharacters, [georgianCapital]⟩
  | "oletter" | "le" =>
    some ⟨[otherLetter, modifierLetter, letterNumber, otherAlphabetic, georgianSmall,
      georgianCapital, .single 0x5F3], otherLowercase :: otherUppercase :: sentenceExtension⟩
  | "numeric" | "nu" => some ⟨[decimalDigit, digitlikeSign, .single 0x66C], []⟩
  | "aterm" | "at" => some ⟨[fullStop], []⟩
  | "scontinue" | "sc" => some ⟨[sentenceContinuation], []⟩
  | "sterm" | "st" => some ⟨[sentenceTerminal], [fullStop]⟩
  | "close" | "cl" =>
    some ⟨[openPunctuation, closePunctuation, initialPunctuation, finalPunctuation, otherQuote],
      []⟩
  | _ => none

end PostFilter.CharSet
