import PostFilter.Text.Numeral

/-!
# Text — positions

A position is a byte offset with the line and the column that it is in, both counted from 1; a
column counts characters. Offsets past the end mean the end, and an offset inside a character means
its start.
-/

namespace PostFilter.Text

/-- The number of bytes of a text in UTF-8. -/
def byteLength (s : List Char) : Nat := s.foldl (fun n c => n + c.utf8Size) 0

/-- The longest front part of a text that has at most `n` bytes. -/
def frontWithin : (n : Nat) → List Char → List Char
  | _, [] => []
  | n, c :: rest => if c.utf8Size ≤ n then c :: frontWithin (n - c.utf8Size) rest else []

/-- A place in a text. -/
structure Position where
  offset : Nat
  line : Nat
  column : Nat
  deriving DecidableEq, Repr

namespace Position

/-- The position behind a front part of a text. -/
def behind (front : List Char) : Position where
  offset := byteLength front
  line := front.count '\n' + 1
  column := (front.reverse.takeWhile (· != '\n')).length + 1

/-- The position at an offset. -/
def atOffset (s : String) (offset : Nat) : Position := behind (frontWithin offset s.toList)

/-- The start of every text. -/
def start : Position := ⟨0, 1, 1⟩

/-- The position in words. -/
def text (p : Position) : String :=
  "line " ++ decimal p.line ++ ", column " ++ decimal p.column

end Position

/-- The line that an offset is in, without the line feed and the carriage returns before it. -/
def lineAt (s : String) (offset : Nat) : String :=
  let front := frontWithin offset s.toList
  let before := (front.reverse.takeWhile (· != '\n')).reverse
  let after := (s.toList.drop front.length).takeWhile (· != '\n')
  String.ofList (((before ++ after).reverse.dropWhile (· == '\r')).reverse)

end PostFilter.Text
