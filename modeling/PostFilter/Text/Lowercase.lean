import PostFilter.CharSet.Property
import PostFilter.CharSet.CaseTable

/-!
# Text — small letters

`lowercase` writes a text in small letters. Two characters need more than a table: the dotted
capital I becomes two characters, and a capital sigma becomes the final form `ς` where a cased
letter stands before it and none after it, characters that case rules look through left aside.
-/

namespace PostFilter.Text

open Letter

/-- The small form of one character. -/
def lowerChar (c : Char) : List Char :=
  if c.toNat < 128 then [c.toLower]
  else if c.toNat == 0x130 then ['i', Char.ofNat 0x307]
  else
    match CharSet.smallForms.findSome? fun run => run.map? c.toNat with
    | some n => [Char.ofNat n]
    | none => [c]

/-- Whether the first character that case rules do not look through is cased. -/
def meetsCased (s : List Char) : Bool :=
  match s.dropWhile isCaseIgnorable with
  | [] => false
  | c :: _ => isCased c

/-- Small letters of a text that follows `before`, which is given backwards. -/
def lowerAfter (before : List Char) : List Char → List Char
  | [] => []
  | c :: rest =>
    let image :=
      if c.toNat == 0x3A3 then
        if meetsCased before && !meetsCased rest then [Char.ofNat 0x3C2] else [Char.ofNat 0x3C3]
      else lowerChar c
    image ++ lowerAfter (c :: before) rest

/-- The text in small letters. -/
def lowercase (s : String) : String := String.ofList (lowerAfter [] s.toList)

end PostFilter.Text
