import PostFilter.CharSet.CaseChange
import PostFilter.CharSet.Category
import PostFilter.CharSet.Property
import PostFilter.CharSet.Special

/-!
# Char sets — properties that a character has or has not

`binary?` finds the rule of a property by one of its names, in small letters and without separators.
Many rules are of the same make: the characters of some categories, those of a table of further
ones, and less those of a table of exceptions.
-/

namespace PostFilter.CharSet

/-- Small characters. -/
def smallCharacters : List CharSet := [lowercaseLetter, otherLowercase]

/-- Capital characters. -/
def capitalCharacters : List CharSet := [uppercaseLetter, otherUppercase]

/-- Alphabetic characters. -/
def alphabetic : List CharSet :=
  letters ++ [letterNumber, otherAlphabetic, otherLowercase, otherUppercase]

/-- Characters that belong to the character before them. -/
def extending : List CharSet := [nonspacingMark, enclosingMark, otherExtension]

/-- Characters that a name may start with. -/
def nameStart : List CharSet := letters ++ [letterNumber, otherNameStart]

/-- Characters that a name may contain. -/
def namePart : List CharSet :=
  nameStart ++ [nonspacingMark, spacingMark, decimalDigit, connectorPunctuation, otherNamePart]

/-- Characters that belong to notations and not to names. -/
def notationSigns : List CharSet := [patternSyntax, patternSpace]

/-- Characters of names that are no longer names when they are written in a plainer way. -/
def unstableNamePart : CharSet := ⟨#[
  (0x37A, 0x37A), (0x309B, 0x309C), (0xFC5E, 0xFC63), (0xFDFA, 0xFDFB), (0xFE70, 0xFE70),
  (0xFE72, 0xFE72), (0xFE74, 0xFE74), (0xFE76, 0xFE76), (0xFE78, 0xFE78), (0xFE7A, 0xFE7A),
  (0xFE7C, 0xFE7C), (0xFE7E, 0xFE7E)]⟩

/-- Characters that start a name, but not when they are written in a plainer way. -/
def unstableNameStart : CharSet := ⟨#[
  (0xE33, 0xE33), (0xEB3, 0xEB3), (0xFF9E, 0xFF9F)]⟩

/-- Characters of words: alphabetic characters, marks, digits, joining punctuation and joiners. -/
def wordCharacters : List CharSet :=
  alphabetic ++ marks ++ [decimalDigit, connectorPunctuation, joinControl]

/-- Properties of letters, case and names. -/
def letterProperty? : String → Option Recipe
  | "alphabetic" | "alpha" => some ⟨alphabetic, []⟩
  | "lowercase" | "lower" => some ⟨smallCharacters, []⟩
  | "uppercase" | "upper" => some ⟨capitalCharacters, []⟩
  | "cased" => some ⟨casedLetters ++ [otherLowercase, otherUppercase], []⟩
  | "caseignorable" | "ci" =>
    some ⟨[nonspacingMark, enclosingMark, format, modifierLetter, modifierSymbol, betweenLetters],
      []⟩
  | "changeswhenlowercased" | "cwl" =>
    some ⟨titlecaseLetter :: capitalCharacters, [lonelyCapital]⟩
  | "changeswhenuppercased" | "cwu" => some ⟨titlecaseLetter :: smallCharacters, [lonelySmall]⟩
  | "changeswhentitlecased" | "cwt" =>
    some ⟨capitalDigraph :: smallCharacters, [lonelySmall, georgianSmall]⟩
  | "changeswhencasemapped" | "cwcm" =>
    some ⟨titlecaseLetter :: (capitalCharacters ++ smallCharacters), [lonelyCapital, lonelySmall]⟩
  | "changeswhencasefolded" | "cwcf" =>
    some ⟨titlecaseLetter :: foldedSmall :: capitalCharacters, [lonelyCapital, cherokeeCapital]⟩
  | "idstart" | "ids" => some ⟨nameStart, notationSigns⟩
  | "idcontinue" | "idc" => some ⟨namePart, notationSigns⟩
  | "xidstart" | "xids" =>
    some ⟨nameStart, unstableNamePart :: unstableNameStart :: notationSigns⟩
  | "xidcontinue" | "xidc" => some ⟨namePart, unstableNamePart :: notationSigns⟩
  | "idcompatmathstart" => some ⟨[mathNameStart], []⟩
  | "idcompatmathcontinue" => some ⟨[mathNamePart], []⟩
  | "otheralphabetic" | "oalpha" => some ⟨[otherAlphabetic], []⟩
  | "otherlowercase" | "olower" => some ⟨[otherLowercase], []⟩
  | "otheruppercase" | "oupper" => some ⟨[otherUppercase], []⟩
  | "otheridstart" | "oids" => some ⟨[otherNameStart], []⟩
  | "otheridcontinue" | "oidc" => some ⟨[otherNamePart], []⟩
  | "softdotted" | "sd" => some ⟨[softDotted], []⟩
  | "ideographic" | "ideo" => some ⟨[ideographic], []⟩
  | "unifiedideograph" | "uideo" => some ⟨[unifiedIdeograph], []⟩
  | "radical" => some ⟨[radical], []⟩
  | "idsbinaryoperator" | "idsb" => some ⟨[binaryLayout], []⟩
  | "idstrinaryoperator" | "idst" => some ⟨[ternaryLayout], []⟩
  | "idsunaryoperator" | "idsu" => some ⟨[unaryLayout], []⟩
  | "logicalorderexception" | "loe" => some ⟨[writtenFirst], []⟩
  | _ => none

/-- Properties of marks, signs and controls. -/
def signProperty? : String → Option Recipe
  | "whitespace" | "wspace" | "space" => some ⟨[whiteSpace], []⟩
  | "asciihexdigit" | "ahex" => some ⟨[asciiHexDigit], []⟩
  | "hexdigit" | "hex" => some ⟨[hexDigit], []⟩
  | "bidicontrol" | "bidic" => some ⟨[bidiControl], []⟩
  | "bidimirrored" | "bidim" => some ⟨[bidiMirrored], []⟩
  | "dash" => some ⟨[dash], []⟩
  | "hyphen" => some ⟨[hyphen], []⟩
  | "deprecated" | "dep" => some ⟨[deprecated], []⟩
  | "diacritic" | "dia" => some ⟨[diacritic], []⟩
  | "extender" | "ext" => some ⟨[extender], []⟩
  | "graphemebase" | "grbase" =>
    some ⟨letters ++ [spacingMark] ++ numbers ++ punctuation ++ symbols ++ [spaceSeparator],
      [otherExtension]⟩
  | "graphemeextend" | "grext" => some ⟨extending, []⟩
  | "graphemelink" | "grlink" => some ⟨[graphemeLink], []⟩
  | "othergraphemeextend" | "ogrext" => some ⟨[otherExtension], []⟩
  | "modifiercombiningmark" | "mcm" => some ⟨[modifierMark], []⟩
  | "joincontrol" | "joinc" => some ⟨[joinControl], []⟩
  | "math" => some ⟨[mathSymbol, otherMath], []⟩
  | "othermath" | "omath" => some ⟨[otherMath], []⟩
  | "noncharactercodepoint" | "nchar" => some ⟨[noncharacter], []⟩
  | "defaultignorablecodepoint" | "di" => some ⟨[ignorable], []⟩
  | "otherdefaultignorablecodepoint" | "odi" => some ⟨[otherIgnorable], []⟩
  | "patternsyntax" | "patsyn" => some ⟨[patternSyntax], []⟩
  | "patternwhitespace" | "patws" => some ⟨[patternSpace], []⟩
  | "prependedconcatenationmark" | "pcm" => some ⟨[prependedMark], []⟩
  | "quotationmark" | "qmark" => some ⟨[quotationMark], []⟩
  | "sentenceterminal" | "sterm" => some ⟨[sentenceTerminal], []⟩
  | "terminalpunctuation" | "term" => some ⟨[terminalPunctuation], []⟩
  | "regionalindicator" | "ri" => some ⟨[regionalIndicator], []⟩
  | "variationselector" | "vs" => some ⟨[variationSelector], []⟩
  | "emoji" => some ⟨[emoji], []⟩
  | "emojicomponent" | "ecomp" => some ⟨[emojiComponent], []⟩
  | "emojimodifier" | "emod" => some ⟨[emojiModifier], []⟩
  | "emojimodifierbase" | "ebase" => some ⟨[emojiModifierBase], []⟩
  | "emojipresentation" | "epres" => some ⟨[emojiPresentation], []⟩
  | "extendedpictographic" | "extpict" => some ⟨[pictographic], []⟩
  | _ => none

/-- The property with a given name. -/
def binary? (name : String) : Option Recipe := (letterProperty? name).or (signProperty? name)

end PostFilter.CharSet
