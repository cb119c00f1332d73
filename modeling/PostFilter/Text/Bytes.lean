import PostFilter.Text.Position

/-!
# Text — bytes

A text as its bytes in UTF-8. An offset counts bytes; it is a boundary if a character starts there
or the text ends there, and only at boundaries can a text be cut.
-/

namespace PostFilter.Text

/-- The bytes of a text in UTF-8. -/
def utf8 (s : List Char) : List UInt8 := s.flatMap String.utf8EncodeChar

/-- The byte at an offset, as the character with its code; nothing from the end on. -/
def byteAt? (s : List Char) (offset : Nat) : Option Char := (utf8 s)[offset]?.map Char.ofUInt8

/-- The parts of a text before and behind an offset; nothing inside a character and past the
end. -/
def splitBytes? : (offset : Nat) → List Char → Option (List Char × List Char)
  | 0, s => some ([], s)
  | _ + 1, [] => none
  | n + 1, c :: rest =>
    if c.utf8Size ≤ n + 1 then
      (splitBytes? (n + 1 - c.utf8Size) rest).map fun (a, b) => (c :: a, b)
    else none

/-- Whether a character starts at the offset, or the text ends there. -/
def isBoundary (s : List Char) (offset : Nat) : Bool := (splitBytes? offset s).isSome

/-- The offset behind the longest run of bytes from `offset` on that satisfy `p`. -/
def runEnd (p : Char → Bool) (s : List Char) (offset : Nat) : Nat :=
  offset + (((utf8 s).drop offset).takeWhile fun b => p (Char.ofUInt8 b)).length

/-- The offset of the first byte from `offset` on that is `c`. -/
def findByte? (c : Char) (s : List Char) (offset : Nat) : Option Nat :=
  let stop := runEnd (· != c) s offset
  if stop < byteLength s then some stop else none

theorem lt_of_byteAt? {s : List Char} {offset : Nat} {b : Char} (h : byteAt? s offset = some b) :
    offset < (utf8 s).length := by
  rw [byteAt?, Option.map_eq_some_iff] at h
  obtain ⟨_, h, -⟩ := h
  exact (List.getElem?_eq_some_iff.1 h).1

end PostFilter.Text
