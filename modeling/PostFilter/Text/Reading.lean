/-!
# Text — readings

A reader takes a value off the front of a text. `Reading α s` is what it hands back: the value and
the rest of `s`, which is never longer than `s`; a `Taking` has taken at least one character.
Readers that loop end because each round leaves a shorter rest.
-/

namespace PostFilter.Text

theorem length_lt_of_eq_cons {s rest : List Char} {c : Char} (h : s = c :: rest) :
    rest.length < s.length := h ▸ Nat.lt_succ_self rest.length

/-- A value taken off the front of `s`. -/
structure Reading (α : Type) (s : List Char) where
  value : α
  rest : List Char
  le : rest.length ≤ s.length

/-- A value taken off the front of `s`, with at least one character. -/
structure Taking (α : Type) (s : List Char) where
  value : α
  rest : List Char
  lt : rest.length < s.length

namespace Taking

/-- A reading that may have taken nothing. -/
def toReading {α : Type} {s : List Char} (t : Taking α s) : Reading α s :=
  ⟨t.value, t.rest, Nat.le_of_lt t.lt⟩

/-- A reading behind a first value: the second value, and what both leave. -/
def andThen {α β : Type} {s : List Char} (t : Taking α s) (next : Reading β t.rest) :
    Taking β s :=
  ⟨next.value, next.rest, Nat.lt_of_le_of_lt next.le t.lt⟩

/-- Another value for the same characters. -/
def map {α β : Type} {s : List Char} (f : α → β) (t : Taking α s) : Taking β s :=
  ⟨f t.value, t.rest, t.lt⟩

end Taking

namespace Reading

/-- The reading that takes nothing. -/
def stay {α : Type} (value : α) (s : List Char) : Reading α s := ⟨value, s, Nat.le_refl _⟩

/-- The reading that takes one character. -/
def skipOne {α : Type} (value : α) (c : Char) (rest : List Char) : Reading α (c :: rest) :=
  ⟨value, rest, Nat.le_succ rest.length⟩

/-- Another value for the same characters. -/
def map {α β : Type} {s : List Char} (f : α → β) (r : Reading α s) : Reading β s :=
  ⟨f r.value, r.rest, r.le⟩

/-- A reading behind one character more. -/
def past {α : Type} {s : List Char} (c : Char) (r : Reading α s) : Reading α (c :: s) :=
  ⟨r.value, r.rest, Nat.le_succ_of_le r.le⟩

/-- A reading behind one character more, which is taken at least. -/
def takenPast {α : Type} {s : List Char} (c : Char) (r : Reading α s) : Taking α (c :: s) :=
  ⟨r.value, r.rest, Nat.lt_succ_of_le r.le⟩

/-- A taking behind a reading. -/
def andTake {α β : Type} {s : List Char} (r : Reading α s) (next : Taking β r.rest) : Taking β s :=
  ⟨next.value, next.rest, Nat.lt_of_lt_of_le next.lt r.le⟩

/-- A reading behind another one: the second value, and what both leave. -/
def andThen {α β : Type} {s : List Char} (r : Reading α s) (next : Reading β r.rest) :
    Reading β s :=
  ⟨next.value, next.rest, Nat.le_trans next.le r.le⟩

/-- The longest run of characters that satisfy `p`. -/
def run (p : Char → Bool) (s : List Char) : Reading (List Char) s :=
  ⟨s.takeWhile p, s.dropWhile p, (List.dropWhile_sublist p).length_le⟩

/-- The character behind a reading. -/
def take? {α : Type} {s : List Char} (r : Reading α s) : Option (Taking Char s) :=
  match h : r.rest with
  | [] => none
  | c :: rest => some ⟨c, rest, Nat.lt_of_lt_of_le (length_lt_of_eq_cons h) r.le⟩

/-- The character behind a reading, where it does not matter that something is taken. -/
def next? {α : Type} {s : List Char} (r : Reading α s) : Option (Reading Char s) :=
  r.take?.map Taking.toReading

/-- What is left behind the character `c`, if that is the one behind a reading. -/
def sign? {α : Type} {s : List Char} (c : Char) (r : Reading α s) : Option (Reading Unit s) :=
  (r.next?.filter fun next => next.value == c).map fun next => next.map fun _ => ()

end Reading

end PostFilter.Text
