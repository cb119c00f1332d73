import PostFilter.Pattern.Program
import PostFilter.Pattern.Property

/-!
# Patterns — searching

`Program.find?` looks for the leftmost match and, among those that start there, for the one that the
pattern prefers. The machine walks the text once. It keeps the places it can be in as a list, the
most preferred first, each with the bounds of its captures; a place enters the list at most once for
each position, so the work is bounded by text length times program length.

`Program.findAll` repeats the search behind each match. A match that takes nothing and ends where
the match before it ended is passed over.
-/

namespace PostFilter.Pattern

/-- Bounds of captures: slot `2 * i` is where capture `i` starts, slot `2 * i + 1` where it ends. -/
abbrev Slots := Array (Option Nat)

/-- A place of the machine. -/
structure Thread where
  address : Nat
  slots : Slots

/-- Characters of words; without the Unicode switch only those of ASCII. -/
def isWordChar (unicode : Bool) (c : Char) : Bool :=
  if c.toNat < 128 then c.isAlphanum || c == '_' else unicode && wordSet.has c

/-- Whether the condition holds between `before` and `after`; `none` is an end of the text. -/
def Look.holds (look : Look) (before after : Option Char) : Bool :=
  let word (unicode : Bool) (c : Option Char) : Bool := c.any (isWordChar unicode)
  match look with
  | .textStart => before.isNone
  | .textEnd => after.isNone
  | .lineStart => before.isNone || before == some '\n'
  | .lineEnd => after.isNone || after == some '\n'
  | .lineStartCrlf =>
    before.isNone || before == some '\n' || (before == some '\r' && after != some '\n')
  | .lineEndCrlf =>
    after.isNone || after == some '\r' || (after == some '\n' && before != some '\r')
  | .boundary u => word u before != word u after
  | .notBoundary u => word u before == word u after
  | .wordStart u => !word u before && word u after
  | .wordEnd u => word u before && !word u after
  | .wordStartHalf u => !word u before
  | .wordEndHalf u => !word u after

/-- Where the machine is: the position, and the characters around it. -/
structure Cursor where
  position : Nat
  before : Option Char
  after : Option Char

/-- The places being collected for one position: those that take a character or accept, and for
each address the position for which it was last entered, plus one. -/
structure Places where
  threads : Array Thread
  entered : Array Nat

/-- Enters the threads of `pending`, the most preferred first, and follows every instruction that
takes no character. Each address is entered once, so `fuel` need not exceed the number of jumps. -/
def follow (code : Array Instr) (at_ : Cursor) :
    (fuel : Nat) → (pending : List Thread) → Places → Places
  | 0, _, places => places
  | _ + 1, [], places => places
  | fuel + 1, thread :: pending, places =>
    if places.entered.getD thread.address 0 == at_.position + 1 then
      follow code at_ fuel pending places
    else
      let entered := places.entered.set! thread.address (at_.position + 1)
      let threads := places.threads
      match code[thread.address]? with
      | none => follow code at_ fuel pending ⟨threads, entered⟩
      | some (.look look next) =>
        if look.holds at_.before at_.after then
          follow code at_ fuel ({ thread with address := next } :: pending) ⟨threads, entered⟩
        else follow code at_ fuel pending ⟨threads, entered⟩
      | some (.split targets) =>
        let more := targets.map fun target => { thread with address := target }
        follow code at_ fuel (more ++ pending) ⟨threads, entered⟩
      | some (.save slot next) =>
        let slots := thread.slots.set! slot (some at_.position)
        follow code at_ fuel (⟨next, slots⟩ :: pending) ⟨threads, entered⟩
      | some _ => follow code at_ fuel pending ⟨threads.push thread, entered⟩

/-- The number of jumps of a program, plus the threads that may be entered from outside. -/
def Program.jumps (p : Program) : Nat :=
  p.code.foldl (fun n instr =>
    match instr with
    | .split targets => n + targets.length + 1
    | _ => n + 2) 2

/-- What one pass over the threads of a position finds: the threads behind the next character, and
the match of the first thread that accepts. Threads after an accepting one are dropped. -/
def advance (code : Array Instr) (fuel : Nat) (c : Option Char) (next : Cursor) :
    List Thread → Places → Places × Option Slots
  | [], places => (places, none)
  | thread :: rest, places =>
    let take (matched : Bool) (target : Nat) : Places :=
      if matched then follow code next fuel [{ thread with address := target }] places else places
    match code[thread.address]? with
    | some .accept => (places, some thread.slots)
    | some (.char d target) => advance code fuel c next rest (take (c == some d) target)
    | some (.set s target) => advance code fuel c next rest (take (c.any s.has) target)
    | _ => advance code fuel c next rest places

/-- Walks the text from a position on. `best` is the match found so far; while there is none, the
search may also start at the position in hand. With `first`, any match ends the walk. -/
def Program.walk (p : Program) (fuel slots : Nat) (first : Bool) (places : Places)
    (best : Option (Slots × Nat)) (position : Nat) (before : Option Char) (text : List Char) :
    Option (Slots × Nat) :=
  let at_ : Cursor := ⟨position, before, text.head?⟩
  let places :=
    if best.isNone then
      let start : Thread := ⟨p.entry, (Array.replicate slots none).set! 0 (some position)⟩
      follow p.code at_ fuel [start] places
    else places
  if places.threads.isEmpty && best.isSome then best
  else
    let next : Cursor := ⟨position + 1, text.head?, text.tail.head?⟩
    let (places', found) :=
      advance p.code fuel text.head? next places.threads.toList ⟨#[], places.entered⟩
    let best := (found.map fun s => (s, position)).or best
    if first && best.isSome then best
    else
      match text with
      | [] => best
      | c :: rest => p.walk fuel slots first places' best (position + 1) (some c) rest

/-- The leftmost match at or behind `position`; `before` is the character in front of `text`. -/
def Program.find? (p : Program) (first : Bool) (position : Nat) (before : Option Char)
    (text : List Char) : Option Slots :=
  let slots := 2 * (p.groups.size + 1)
  (p.walk p.jumps slots first ⟨#[], Array.replicate p.code.size 0⟩ none position before text).map
    fun (found, stop) => found.set! 1 (some stop)

/-- Whether the pattern matches anywhere in the text. -/
def Program.isMatch (p : Program) (text : List Char) : Bool :=
  (p.find? true 0 none text).isSome

/-- The bounds of the whole match. -/
def Slots.bounds (slots : Slots) : Nat × Nat :=
  ((slots.getD 0 none).getD 0, (slots.getD 1 none).getD 0)

/-- All matches from `position` on. `last` is where the match before ended. -/
def Program.findAllFrom (p : Program) :
    (fuel : Nat) → (last : Option Nat) → (position : Nat) → (before : Option Char) →
      (text : List Char) → List Slots
  | 0, _, _, _, _ => []
  | fuel + 1, last, position, before, text =>
    match p.find? false position before text with
    | none => []
    | some slots =>
      let (start, stop) := slots.bounds
      if start == stop && last == some stop then
        match text with
        | [] => []
        | c :: rest => p.findAllFrom fuel last (position + 1) (some c) rest
      else
        let before' := if stop == position then before else text[stop - position - 1]?
        slots :: p.findAllFrom fuel (some stop) stop before' (text.drop (stop - position))

/-- All matches in a text, none overlapping another. -/
def Program.findAll (p : Program) (text : List Char) : List Slots :=
  p.findAllFrom (2 * text.length + 2) none 0 none text

end PostFilter.Pattern
