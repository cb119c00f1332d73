import PostFilter.CharSet.Letters
import PostFilter.CharSet.Marks
import PostFilter.CharSet.Recipe
import PostFilter.CharSet.Signs

/-!
# Char sets — categories

Every code has one general category. Categories come in families: letters, marks, numbers,
punctuation, symbols, separators and others. Codes that no table holds are unassigned.
-/

namespace PostFilter.CharSet

/-- The halves of the pairs that encode codes above `0xFFFF`; they are codes, but no characters. -/
def surrogate : CharSet := .range 0xD800 0xDFFF

/-- Letters with case. -/
def casedLetters : List CharSet := [uppercaseLetter, lowercaseLetter, titlecaseLetter]

def letters : List CharSet := casedLetters ++ [modifierLetter, otherLetter]

def marks : List CharSet := [nonspacingMark, spacingMark, enclosingMark]

def numbers : List CharSet := [decimalDigit, letterNumber, otherNumber]

def punctuation : List CharSet :=
  [connectorPunctuation, dashPunctuation, openPunctuation, closePunctuation, initialPunctuation,
    finalPunctuation, otherPunctuation]

def symbols : List CharSet := [mathSymbol, currencySymbol, modifierSymbol, otherSymbol]

def separators : List CharSet := [spaceSeparator, lineSeparator, paragraphSeparator]

/-- Characters that can be written. -/
def graphic : List CharSet := letters ++ marks ++ numbers ++ punctuation ++ symbols ++ separators

/-- Codes of every category but "unassigned". -/
def assigned : List CharSet := graphic ++ [control, format, privateUse, surrogate]

/-- The general categories, and the sets of codes that are named like one. -/
def category? : String → Option Recipe
  | "any" => some ⟨[.full], []⟩
  | "assigned" => some ⟨assigned, []⟩
  | "ascii" => some ⟨[.range 0 127], []⟩
  | "lu" | "uppercaseletter" => some ⟨[uppercaseLetter], []⟩
  | "ll" | "lowercaseletter" => some ⟨[lowercaseLetter], []⟩
  | "lt" | "titlecaseletter" => some ⟨[titlecaseLetter], []⟩
  | "lc" | "casedletter" => some ⟨casedLetters, []⟩
  | "lm" | "modifierletter" => some ⟨[modifierLetter], []⟩
  | "lo" | "otherletter" => some ⟨[otherLetter], []⟩
  | "l" | "letter" => some ⟨letters, []⟩
  | "mn" | "nonspacingmark" => some ⟨[nonspacingMark], []⟩
  | "mc" | "spacingmark" => some ⟨[spacingMark], []⟩
  | "me" | "enclosingmark" => some ⟨[enclosingMark], []⟩
  | "m" | "mark" | "combiningmark" => some ⟨marks, []⟩
  | "nd" | "decimalnumber" | "digit" => some ⟨[decimalDigit], []⟩
  | "nl" | "letternumber" => some ⟨[letterNumber], []⟩
  | "no" | "othernumber" => some ⟨[otherNumber], []⟩
  | "n" | "number" => some ⟨numbers, []⟩
  | "pc" | "connectorpunctuation" => some ⟨[connectorPunctuation], []⟩
  | "pd" | "dashpunctuation" => some ⟨[dashPunctuation], []⟩
  | "ps" | "openpunctuation" => some ⟨[openPunctuation], []⟩
  | "pe" | "closepunctuation" => some ⟨[closePunctuation], []⟩
  | "pi" | "initialpunctuation" => some ⟨[initialPunctuation], []⟩
  | "pf" | "finalpunctuation" => some ⟨[finalPunctuation], []⟩
  | "po" | "otherpunctuation" => some ⟨[otherPunctuation], []⟩
  | "p" | "punctuation" | "punct" => some ⟨punctuation, []⟩
  | "sm" | "mathsymbol" => some ⟨[mathSymbol], []⟩
  | "sc" | "currencysymbol" => some ⟨[currencySymbol], []⟩
  | "sk" | "modifiersymbol" => some ⟨[modifierSymbol], []⟩
  | "so" | "othersymbol" => some ⟨[otherSymbol], []⟩
  | "s" | "symbol" => some ⟨symbols, []⟩
  | "zs" | "spaceseparator" => some ⟨[spaceSeparator], []⟩
  | "zl" | "lineseparator" => some ⟨[lineSeparator], []⟩
  | "zp" | "paragraphseparator" => some ⟨[paragraphSeparator], []⟩
  | "z" | "separator" => some ⟨separators, []⟩
  | "cc" | "control" | "cntrl" => some ⟨[control], []⟩
  | "cf" | "format" => some ⟨[format], []⟩
  | "co" | "privateuse" => some ⟨[privateUse], []⟩
  | "cn" | "unassigned" => some ⟨[.full], assigned⟩
  | "c" | "other" => some ⟨[.full], graphic⟩
  | _ => none

end PostFilter.CharSet
