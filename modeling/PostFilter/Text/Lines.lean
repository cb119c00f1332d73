import PostFilter.Text.Locating

/-!
# Text — lines and their ends

A line ends at a line feed, and a carriage return right before the line feed is part of that end.
What stands behind the last line feed is one more line, unless nothing stands there.

`Relined` relates texts that come from one another by changes at the ends of lines, at the end of
the text and in the order of the lines.
-/

namespace PostFilter.Text

/-- A line without the carriage return at its end. -/
def withoutReturn (line : List Char) : List Char :=
  if line.getLast? = some '\r' then line.dropLast else line

/-- The lines of a text, without their ends. -/
def lines (s : List Char) : List (List Char) := ended (splitLines s)
where
  /-- The lines among the parts that line feeds leave. -/
  ended : List (List Char) → List (List Char)
    | [] => []
    | [last] => if last.isEmpty then [] else [last]
    | line :: next :: rest => withoutReturn line :: ended (next :: rest)

/-- The text with a carriage return before each line feed. -/
def withReturns (s : List Char) : List Char :=
  s.flatMap fun c => if c == '\n' then ['\r', '\n'] else [c]

/-- Whether a line starts behind a text. -/
def StartsLine (front : List Char) : Prop := front = [] ∨ ∃ before, front = before ++ ['\n']

/-- Whether a line ends before a text. -/
def EndsLine (rest : List Char) : Prop :=
  rest = [] ∨ (∃ more, rest = '\n' :: more) ∨ ∃ more, rest = '\r' :: '\n' :: more

/-- Whether a text consists of blanks that are no line feeds. -/
def IsGap (s : List Char) : Prop := ∀ c ∈ s, isBlank c = true ∧ c ≠ '\n'

/-- Whether a text comes from another one by changes that leave its lines, up to the blanks around
them, in some order, with blank lines behind them. -/
inductive Relined : List Char → List Char → Prop where
  /-- Blanks are put before a line. -/
  | indent {front gap : List Char} (rest : List Char) (start : StartsLine front)
      (blank : IsGap gap) : Relined (front ++ rest) (front ++ (gap ++ rest))
  /-- Blanks are put behind a line. -/
  | pad {gap rest : List Char} (front : List Char) (stop : EndsLine rest) (blank : IsGap gap) :
      Relined (front ++ rest) (front ++ (gap ++ rest))
  /-- Every line feed gets a carriage return before it. -/
  | returns (s : List Char) : Relined s (withReturns s)
  /-- Blank lines are put behind the text. -/
  | extend {blanks : List Char} (s : List Char) (blank : ∀ c ∈ blanks, isBlank c = true) :
      Relined s (s ++ blanks)
  /-- Lines none of which is blank change their order. -/
  | permute {s t : List Char} (solid : ∀ line ∈ lines s, ∃ c ∈ line, isBlank c = false)
      (perm : (lines s).Perm (lines t)) : Relined s t
  | refl (s : List Char) : Relined s s
  | symm {s t : List Char} (h : Relined s t) : Relined t s
  | trans {s t u : List Char} (h : Relined s t) (h' : Relined t u) : Relined s u

end PostFilter.Text
