/-!
# Spam — checks

The spam checks that a `#wipe` spell selects, as a set of bits. Seven bits have a name. The eighth
has none; it is kept when a stored set holds it, and selects nothing.
-/

namespace PostFilter

/-- One spam check. -/
inductive Check where
  | sameLines
  | sameWords
  | longWords
  | symbols
  | capsLock
  | numbers
  | whitespace
  deriving DecidableEq, Repr

/-- A set of spam checks. -/
structure Checks where
  bits : UInt8
  deriving DecidableEq, Repr

namespace Check

/-- Every check, in bit order, which is the order in which checks are tried. -/
def inOrder : List Check :=
  [sameLines, sameWords, longWords, symbols, capsLock, numbers, whitespace]

/-- The bit of a check. -/
def bit : Check → UInt8
  | sameLines => 1
  | sameWords => 2
  | longWords => 4
  | symbols => 8
  | capsLock => 16
  | numbers => 32
  | whitespace => 64

/-- The word of a check in an argument. -/
def word : Check → String
  | sameLines => "samelines"
  | sameWords => "samewords"
  | longWords => "longwords"
  | symbols => "symbols"
  | capsLock => "capslock"
  | numbers => "numbers"
  | whitespace => "whitespace"

/-- The check with a given word. -/
def ofWord? (word : String) : Option Check := inOrder.find? fun c => c.word == word

end Check

namespace Checks

def none : Checks := ⟨0⟩

/-- The seven checks together. -/
def all : Checks := ⟨127⟩

/-- The set with one more check. -/
def insert (cs : Checks) (c : Check) : Checks := ⟨cs.bits ||| c.bit⟩

/-- Whether the set holds a check. -/
def has (cs : Checks) (c : Check) : Bool := cs.bits &&& c.bit == c.bit

/-- The checks of the set, in bit order. -/
def toList (cs : Checks) : List Check := Check.inOrder.filter cs.has

/-- The set as an argument: the words with commas between them. -/
def text (cs : Checks) : String := ",".intercalate (cs.toList.map Check.word)

/-- Sets are ordered as numbers. -/
def compare (a b : Checks) : Ordering := Ord.compare a.bits b.bits

end Checks

end PostFilter
