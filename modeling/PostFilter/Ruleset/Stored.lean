import PostFilter.Json.Decode
import PostFilter.Json.Reader
import PostFilter.Ruleset.Basic

/-!
# Rulesets — stored form

A ruleset is stored as a JSON object with the time stamp of the text it was compiled from. Patterns
are stored as source and flags and are read again when the document is loaded, so a document with a
pattern that cannot be read is refused.

* `Ruleset.store` — the document of a ruleset.
* `StoredRuleset.load?` — what a document describes.
-/

namespace PostFilter

/-- What a stored document describes. -/
structure StoredRuleset where
  timestamp : UInt64
  ruleset : Ruleset

/-! ### Writing -/

namespace Json

def ofThreadScope : ThreadScope → Json
  | .anywhere => ofString "any"
  | .boardOnly => ofString "boardonly"
  | .thread n => ofFields [("thread", ofUInt64 n)]

def ofScope (s : Scope) : Json :=
  ofFields [("board", ofString s.board), ("thread", ofThreadScope s.thread)]

def ofPlace (p : Place) : Json :=
  ofFields [("board", ofOption ofString p.board), ("thread", ofOption ofUInt64 p.thread)]

def ofPattern (p : Pattern) : Json :=
  ofFields [("source", ofString p.source), ("flags", ofString p.flags.text)]

def ofNumberRange (r : NumberRange) : Json :=
  ofFields [("min", ofUInt64 r.min), ("max", ofUInt64 r.max)]

def ofDimensions (d : Dimensions) : Json :=
  ofFields [("width", ofNat d.width.toNat), ("height", ofNat d.height.toNat)]

def ofSizeRange (r : SizeRange) : Json :=
  ofFields [("min", ofDimensions r.min), ("max", ofDimensions r.max)]

/-- The stored name of a comparison. -/
def comparisonTag : Comparison → String
  | .less => "Less"
  | .equal => "Equal"
  | .greater => "Greater"

def ofImageBound (b : ImageBound) : Json :=
  ofFields [("cmp", ofString (comparisonTag b.cmp)), ("weight", ofOption ofNumberRange b.weight),
    ("size", ofOption ofSizeRange b.size)]

/-- The stored name of a check. -/
def checkTag : Check → String
  | .sameLines => "SAMELINES"
  | .sameWords => "SAMEWORDS"
  | .longWords => "LONGWORDS"
  | .symbols => "SYMBOLS"
  | .capsLock => "CAPSLOCK"
  | .numbers => "NUMBERS"
  | .whitespace => "WHITESPACE"

/-- A set of checks as text: the names, and behind them the bit that has none. -/
def checksText (cs : Checks) : String :=
  " | ".intercalate (cs.toList.map checkTag ++ (if 128 ≤ cs.bits then ["0x80"] else []))

def ofArgument : Argument → Json
  | .text t => ofFields [("text", ofString t)]
  | .pattern p => ofFields [("regex", ofPattern p)]
  | .ranges rs => ofFields [("ranges", .array (rs.map ofNumberRange))]
  | .image b => ofFields [("image", ofImageBound b)]
  | .checks cs => ofFields [("wipe", ofString (checksText cs))]
  | .signature h => ofFields [("signature", ofUInt64 h)]

def ofSpell (s : Spell) : Json :=
  ofFields [("kind", ofString s.kind.word), ("arg", ofOption ofArgument s.argument),
    ("scope", ofOption ofScope s.scope), ("negated", .bool s.negated)]

/-- The stored name of a joiner. -/
def joinerTag : Joiner → String
  | .and => "and"
  | .or => "or"

mutual

def ofClause : Clause → Json
  | .spell s => ofFields [("leaf", ofSpell s)]
  | .group g => ofFields [("group", ofGroup g)]

def ofGroup : Group → Json
  | ⟨negated, members⟩ =>
    ofFields [("negated", .bool negated), ("children", .array (ofMembers members))]

def ofMembers : List Member → List Json
  | [] => []
  | ⟨c, j⟩ :: rest =>
    ofFields [("node", ofClause c), ("op", ofString (joinerTag j))] :: ofMembers rest

end

def ofReplacement (r : Replacement) : Json :=
  ofFields [("scope", ofOption ofScope r.scope), ("pattern", ofPattern r.pattern),
    ("replacement", ofString r.template)]

def ofDocument (d : Document) : Json :=
  ofFields [("filter", ofOption ofGroup d.filter),
    ("incoming", .array (d.incoming.map ofReplacement)),
    ("outgoing", .array (d.outgoing.map ofReplacement))]

def ofStored (s : StoredRuleset) : Json :=
  ofFields [("fingerprint", ofUInt64 s.ruleset.fingerprint),
    ("source_timestamp", ofUInt64 s.timestamp),
    ("filter", ofOption ofGroup s.ruleset.filter),
    ("incoming", .array (s.ruleset.incoming.map ofReplacement)),
    ("outgoing", .array (s.ruleset.outgoing.map ofReplacement)),
    ("context", ofPlace s.ruleset.place)]

end Json

/-! ### Reading -/

namespace Json

/-- A thread scope: `any` and `boardonly` are tags alone, `thread` has a number. -/
def decodeThreadScope : Decoder ThreadScope := fun levels v =>
  (decodeTag (fun
    | "any" => some .anywhere
    | "boardonly" => some .boardOnly
    | _ => none) levels v).or
  (decodeTagged (fun tag levels v =>
    if tag == "thread" then (decodeUInt64 levels v).map .thread else none) levels v)

def decodeScope : Decoder Scope :=
  decodeRecord ["board", "thread"] fun levels values =>
    match values with
    | [board, thread] => do
      return ⟨← required decodeString levels board, ← required decodeThreadScope levels thread⟩
    | _ => none

def decodePlace : Decoder Place :=
  decodeRecord ["board", "thread"] fun levels values =>
    match values with
    | [board, thread] => do
      return ⟨← optional decodeString levels board, ← optional decodeUInt64 levels thread⟩
    | _ => none

/-- A pattern is read from its source and flags; one that cannot be read is refused. -/
def decodePattern : Decoder Pattern :=
  decodeRecord ["source", "flags"] fun levels values =>
    match values with
    | [source, flags] => do
      let source ← required decodeString levels source
      let flags ← required decodeString levels flags
      (Pattern.read source flags).toOption
    | _ => none

def decodeNumberRange : Decoder NumberRange :=
  decodeRecord ["min", "max"] fun levels values =>
    match values with
    | [min, max] => do
      return ⟨← required decodeUInt64 levels min, ← required decodeUInt64 levels max⟩
    | _ => none

def decodeDimensions : Decoder Dimensions :=
  decodeRecord ["width", "height"] fun levels values =>
    match values with
    | [width, height] => do
      return ⟨← required decodeUInt32 levels width, ← required decodeUInt32 levels height⟩
    | _ => none

def decodeSizeRange : Decoder SizeRange :=
  decodeRecord ["min", "max"] fun levels values =>
    match values with
    | [min, max] => do
      return ⟨← required decodeDimensions levels min, ← required decodeDimensions levels max⟩
    | _ => none

def decodeComparison : Decoder Comparison :=
  decodeTag fun tag => [Comparison.less, .equal, .greater].find? fun c => comparisonTag c == tag

def decodeImageBound : Decoder ImageBound :=
  decodeRecord ["cmp", "weight", "size"] fun levels values =>
    match values with
    | [cmp, weight, size] => do
      return ⟨← required decodeComparison levels cmp, ← optional decodeNumberRange levels weight,
        ← optional decodeSizeRange levels size⟩
    | _ => none

/-- The bits that one part of the text of a set stands for: a name, or a number behind `0x`. -/
def checkBits? (part : List Char) : Option UInt8 :=
  match part with
  | '0' :: 'x' :: digits =>
    let digits := if digits.head? == some '+' then digits.drop 1 else digits
    if digits.isEmpty || !digits.all Text.isHexDigit then none
    else if Text.valueOf 16 digits < 256 then some (UInt8.ofNat (Text.valueOf 16 digits))
    else none
  | _ => (Check.inOrder.find? fun c => checkTag c == String.ofList part).map Check.bit

/-- The set of checks that a text stands for: parts with `|` between them, or nothing. -/
def checksOfText? (text : String) : Option Checks :=
  let cs := Text.trimList text.toList
  if cs.isEmpty then some .none
  else
    ((Text.splitAll (· == '|') text.toList).mapM fun part => checkBits? (Text.trimList part)).map
      fun bits => ⟨bits.foldl (· ||| ·) 0⟩

def decodeChecks : Decoder Checks := fun levels v => (decodeString levels v).bind checksOfText?

def decodeArgument : Decoder Argument :=
  decodeTagged fun tag levels v =>
    match tag with
    | "text" => (decodeString levels v).map .text
    | "regex" => (decodePattern levels v).map .pattern
    | "ranges" => (decodeList decodeNumberRange levels v).map .ranges
    | "image" => (decodeImageBound levels v).map .image
    | "wipe" => (decodeChecks levels v).map .checks
    | "signature" => (decodeUInt64 levels v).map .signature
    | _ => none

def decodeSpell : Decoder Spell :=
  decodeRecord ["kind", "arg", "scope", "negated"] fun levels values =>
    match values with
    | [kind, arg, scope, negated] => do
      return ⟨← required (decodeTag Kind.ofWord?) levels kind,
        ← optional decodeArgument levels arg, ← optional decodeScope levels scope,
        ← required decodeBool levels negated⟩
    | _ => none

def decodeJoiner : Decoder Joiner :=
  decodeTag fun tag => [Joiner.and, .or].find? fun j => joinerTag j == tag

mutual

/-- A clause: a tagged spell or group. -/
def decodeClause (levels : Nat) (v : Json) : Option Clause :=
  match levels, v with
  | levels + 2, .object [(some tag, value)] =>
    if tag == "leaf" then (decodeSpell (levels + 1) value).map .spell
    else if tag == "group" then (decodeGroup (levels + 1) value).map .group
    else none
  | _, _ => none

/-- A group: a record of a negation and an array of members. -/
def decodeGroup (levels : Nat) (v : Json) : Option Group :=
  match levels with
  | levels + 2 =>
    match recordFields? ["negated", "children"] v with
    | some [negated, some (.array items)] =>
      match required decodeBool (levels + 1) negated, levels with
      | some negated, levels + 1 =>
        (items.mapM fun item => decodeMember (levels + 1) item).map fun members =>
          ⟨negated, members⟩
      | _, _ => none
    | _ => none
  | _ => none

/-- A member: a record of a clause and a joiner. -/
def decodeMember (levels : Nat) (v : Json) : Option Member :=
  match levels with
  | levels + 2 =>
    match recordFields? ["node", "op"] v with
    | some [some node, op] =>
      match decodeClause (levels + 1) node, required decodeJoiner (levels + 1) op with
      | some c, some j => some ⟨c, j⟩
      | _, _ => none
    | _ => none
  | _ => none

end

def decodeReplacement : Decoder Replacement :=
  decodeRecord ["scope", "pattern", "replacement"] fun levels values =>
    match values with
    | [scope, pattern, template] => do
      return ⟨← optional decodeScope levels scope, ← required decodePattern levels pattern,
        ← required decodeString levels template⟩
    | _ => none

def decodeDocument : Decoder Document :=
  decodeRecord ["filter", "incoming", "outgoing"] fun levels values =>
    match values with
    | [filter, incoming, outgoing] => do
      return ⟨← optional decodeGroup levels filter,
        ← required (decodeList decodeReplacement) levels incoming,
        ← required (decodeList decodeReplacement) levels outgoing⟩
    | _ => none

def decodeStored : Decoder StoredRuleset :=
  decodeRecord ["fingerprint", "source_timestamp", "filter", "incoming", "outgoing", "context"]
    fun levels values =>
      match values with
      | [fingerprint, timestamp, filter, incoming, outgoing, place] => do
        return ⟨← required decodeUInt64 levels timestamp,
          ⟨← required decodeUInt64 levels fingerprint, ← optional decodeGroup levels filter,
            ← required (decodeList decodeReplacement) levels incoming,
            ← required (decodeList decodeReplacement) levels outgoing,
            ← required decodePlace levels place⟩⟩
      | _ => none

end Json

/-- The document of a ruleset. -/
def Ruleset.store (r : Ruleset) (timestamp : UInt64) : String := (Json.ofStored ⟨timestamp, r⟩).text

/-- What a document describes; nothing if it is not the document of a ruleset. -/
def StoredRuleset.load? (text : String) : Option StoredRuleset :=
  (Json.parse? text).bind (Json.decodeStored Json.nestLimit)

end PostFilter
