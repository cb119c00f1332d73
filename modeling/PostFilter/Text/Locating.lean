import PostFilter.Text.Blank
import PostFilter.Text.Bytes

/-!
# Text — lines and offsets

The way from an offset to its position by the bytes of the text, and the way back from a line and a
column.

By the bytes, an offset is moved back to a boundary, and the line feeds on either side of it are
looked for. What lies between two offsets is cut out, which fails where a text cannot be cut.
-/

namespace PostFilter.Text

/-- The lines of a text, without the line feeds between them; there is always at least one. -/
def splitLines (s : List Char) : List (List Char) := splitAll (· == '\n') s

/-- Lines with a line feed behind each. -/
def joinLines (lines : List (List Char)) : List Char := lines.flatMap (· ++ ['\n'])

/-! ### By the bytes -/

/-- The greatest boundary that is not behind an offset. -/
def boundaryBefore (s : List Char) : (offset : Nat) → Nat
  | 0 => 0
  | n + 1 => if isBoundary s (n + 1) then n + 1 else boundaryBefore s n

/-- The number of line feeds before an offset. -/
def lineFeedsBefore (s : List Char) (offset : Nat) : Nat :=
  ((utf8 s).take offset).countP fun b => Char.ofUInt8 b == '\n'

/-- The offset behind the last line feed before an offset, or the start of the text. -/
def lineStart (s : List Char) (offset : Nat) : Nat :=
  offset - (((utf8 s).take offset).reverse.takeWhile fun b => Char.ofUInt8 b != '\n').length

/-- The offset of the first line feed from an offset on, or the end of the text. -/
def lineEnd (s : List Char) (offset : Nat) : Nat := (findByte? '\n' s offset).getD (byteLength s)

/-- The part of a text between two offsets, if the text can be cut there. -/
def between? (s : List Char) (start stop : Nat) : Option (List Char) :=
  if start ≤ stop then
    (splitBytes? start s).bind fun (_, rest) => (splitBytes? (stop - start) rest).map (·.1)
  else none

/-- The text without the carriage returns at its end. -/
def trimReturns (s : List Char) : List Char := (s.reverse.dropWhile (· == '\r')).reverse

/-- The line that an offset is in, by the bytes. -/
def locateLine? (s : String) (offset : Nat) : Option String :=
  let text := s.toList
  let stop := boundaryBefore text (min offset (byteLength text))
  (between? text (lineStart text stop) (lineEnd text stop)).map fun line =>
    String.ofList (trimReturns line)

namespace Position

/-- Whether a position is in an earlier line, or further left in the same one. -/
def IsBefore (p q : Position) : Prop := p.line < q.line ∨ p.line = q.line ∧ p.column < q.column

/-- The position at an offset, by the bytes. -/
def locate? (s : String) (offset : Nat) : Option Position :=
  let text := s.toList
  let stop := boundaryBefore text (min offset (byteLength text))
  (between? text (lineStart text stop) stop).map fun part =>
    ⟨stop, lineFeedsBefore text stop + 1, part.length + 1⟩

/-- The offset of a column of a line, both counted from 1. A line has a column for each of its
characters and one behind them. -/
def offset? (s : String) : (line column : Nat) → Option Nat
  | l + 1, c + 1 =>
    let lines := splitLines s.toList
    (lines[l]?.filter fun line => c ≤ line.length).map fun line =>
      byteLength (joinLines (lines.take l) ++ line.take c)
  | _, _ => none

end Position

end PostFilter.Text
