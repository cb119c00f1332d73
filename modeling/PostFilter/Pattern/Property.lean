import PostFilter.CharSet.Age
import PostFilter.CharSet.Boundary
import PostFilter.Pattern.Fault
import PostFilter.Pattern.Tree

/-!
# Patterns — properties by name

`PropertyName.charSet` finds the set that `\p{…}` stands for. Names are compared without case,
blanks, `_` and `-`, and a leading `is` is dropped. A name alone is a property that a character has
or has not, a category or a script; with a value it is a property of many values, such as the age.
Properties of which nothing but the name is known here take no value.
-/

namespace PostFilter.Pattern

open CharSet

/-- A name in the form in which names are compared. -/
def normalName (name : String) : String :=
  let cs := name.toList
  let startsWithIs := (cs.take 2).map Char.toLower == ['i', 's']
  let body := if startsWithIs then cs.drop 2 else cs
  let kept := body.filter fun c => c.toNat < 128 && c != ' ' && c != '_' && c != '-'
  let lowered := String.ofList (kept.map Char.toLower)
  if startsWithIs && lowered == "c" then "isc" else lowered

/-- Characters of words. -/
def wordSet : CharSet := .unions wordCharacters

/-- Names of properties that no set belongs to. -/
def bareProperties : List String := [
  "bc", "bidiclass", "bidimirroringglyph", "bidipairedbracket", "bidipairedbrackettype", "blk",
  "block", "bmg", "bpb", "bpt", "canonicalcombiningclass", "casefolding", "ccc", "ce", "cf",
  "changeswhennfkccasefolded", "cjkaccountingnumeric", "cjkcompatibilityvariant", "cjkiicore",
  "cjkirggsource", "cjkirghsource", "cjkirgjsource", "cjkirgkpsource", "cjkirgksource",
  "cjkirgmsource", "cjkirgssource", "cjkirgtsource", "cjkirguksource", "cjkirgusource",
  "cjkirgvsource", "cjkothernumeric", "cjkprimarynumeric", "cjkrsunicode", "compex",
  "compositionexclusion", "cwkcf", "decompositionmapping", "decompositiontype", "dm", "dt", "ea",
  "eastasianwidth", "equideo", "equivalentunifiedideograph", "expandsonnfc", "expandsonnfd",
  "expandsonnfkc", "expandsonnfkd", "fcnfkc", "fcnfkcclosure", "fullcompositionexclusion",
  "hangulsyllabletype", "hst", "incb", "indicconjunctbreak", "indicpositionalcategory",
  "indicsyllabiccategory", "inpc", "insc", "isc", "jamoshortname", "jg", "joininggroup",
  "joiningtype", "jsn", "jt", "kaccountingnumeric", "kcompatibilityvariant", "kehcat", "kehdesc",
  "kehhg", "kehifao", "kehjsesh", "kehnomirror", "kehnorotate", "kiicore", "kirggsource",
  "kirghsource", "kirgjsource", "kirgkpsource", "kirgksource", "kirgmsource", "kirgssource",
  "kirgtsource", "kirguksource", "kirgusource", "kirgvsource", "kothernumeric", "kprimarynumeric",
  "krsunicode", "lb", "lc", "linebreak", "lowercasemapping", "na", "na1", "name", "namealias",
  "nfcqc", "nfcquickcheck", "nfdqc", "nfdquickcheck", "nfkccasefold", "nfkccf", "nfkcqc",
  "nfkcquickcheck", "nfkcscf", "nfkcsimplecasefold", "nfkdqc", "nfkdquickcheck", "nt",
  "numerictype", "numericvalue", "nv", "ocomment", "scf", "sfc", "simplecasefolding",
  "simplelowercasemapping", "simpletitlecasemapping", "simpleuppercasemapping", "slc", "stc",
  "suc", "tc", "titlecasemapping", "uc", "unicode1name", "unicoderadicalstroke",
  "uppercasemapping", "urs", "verticalorientation", "vo", "xonfc", "xonfd", "xonfkc", "xonfkd"]

/-- Names of properties that would shadow a category; without a value they name the category. -/
def shadowedNames : List String := ["cf", "lc", "sc"]

/-- Names of categories and scripts that no character has. -/
def vacantNames : List String :=
  ["cs", "surrogate", "hrkt", "katakanaorhiragana", "unknown", "zzzz"]

/-- What is known of a property. -/
inductive Property where
  /-- A character has it or has it not. -/
  | binary (recipe : Recipe)
  /-- A character has a value of it. -/
  | valued (setOf? : String → Option CharSet)

/-- The property with a normal name. -/
def property? (name : String) : Option Property :=
  match name with
  | "generalcategory" | "gc" => some (.valued fun v => (category? v).map Recipe.charSet)
  | "script" | "sc" => some (.valued fun v => (script? v).map Script.set)
  | "scriptextensions" | "scx" => some (.valued fun v => (script? v).map Script.extended)
  | "age" => some (.valued age?)
  | "graphemeclusterbreak" | "gcb" =>
    some (.valued fun v => (graphemeClass? v).map Recipe.charSet)
  | "wordbreak" | "wb" => some (.valued fun v => (wordClass? v).map Recipe.charSet)
  | "sentencebreak" | "sb" => some (.valued fun v => (sentenceClass? v).map Recipe.charSet)
  | _ =>
    if bareProperties.contains name then some (.valued fun _ => none)
    else (binary? name).map .binary

/-- The set of a normal name that stands alone. -/
def namedSet (name : String) : Except Fault CharSet :=
  match if shadowedNames.contains name then none else property? name with
  | some (.binary recipe) => .ok recipe.charSet
  | some (.valued _) => .error .propertyNotFound
  | none =>
    match ((category? name).map Recipe.charSet).or ((script? name).map Script.set) with
    | some set => .ok set
    | none =>
      if vacantNames.contains name then .error .propertyValueNotFound else .error .propertyNotFound

/-- The set that a property name stands for. -/
def PropertyName.charSet : PropertyName → Except Fault CharSet
  | .plain name => namedSet (normalName name)
  | .valued name value =>
    match property? (normalName name) with
    | none => .error .propertyNotFound
    | some (.binary _) => .error .propertyValueNotFound
    | some (.valued setOf?) =>
      match setOf? (normalName value) with
      | some set => .ok set
      | none => .error .propertyValueNotFound

end PostFilter.Pattern
