import PostFilter.Pattern.Meaning
import PostFilter.Pattern.Search
import PostFilter.Pattern.Size
import PostFilter.Pattern.TreeReader

/-!
# Patterns — literals

A pattern is written `/source/flags`. `Pattern` is a literal that is known to be meaningful: it
carries its expression together with the proof that the source has that expression under its flags,
so two patterns with the same source and flags are equal. The flags are a record, which is their
normal form: their order, repetitions and the idle letter `g` are gone.

* `Pattern.read` — the only way to make a pattern; it fails with a `Fault`.
* `Pattern.isMatch` — whether the pattern matches somewhere in a text.
-/

namespace PostFilter

namespace Pattern

/-- The letters behind the closing slash. -/
structure Flags where
  ignoreCase : Bool := false
  multiLine : Bool := false
  dotAll : Bool := false
  unicode : Bool := false
  spaced : Bool := false
  deriving DecidableEq, Repr, Inhabited

/-- Letters that may stand behind the closing slash. The letter `g` is idle: a pattern is only ever
asked whether it matches, or for all its matches. -/
def supportedFlags : List Char := ['g', 'i', 'm', 's', 'u', 'x']

/-- The least of a list of characters. -/
def leastChar? : List Char → Option Char
  | [] => none
  | c :: rest =>
    match leastChar? rest with
    | none => some c
    | some d => some (if d < c then d else c)

/-- The flags that are set by some of the given letters. -/
def Flags.setBy (letters : List Char) : Flags where
  ignoreCase := letters.contains 'i'
  multiLine := letters.contains 'm'
  dotAll := letters.contains 's'
  unicode := letters.contains 'u'
  spaced := letters.contains 'x'

/-- Reads flags. Of several unsupported letters the least is reported. -/
def Flags.ofLetters (letters : List Char) : Except Fault Flags :=
  match leastChar? (letters.filter fun c => !supportedFlags.contains c) with
  | some c => .error (.flagUnsupported c)
  | none => .ok (Flags.setBy letters)

/-- The letters of the flags, in alphabetical order. -/
def Flags.letters (flags : Flags) : List Char :=
  (if flags.ignoreCase then ['i'] else []) ++ (if flags.multiLine then ['m'] else []) ++
    (if flags.dotAll then ['s'] else []) ++ (if flags.unicode then ['u'] else []) ++
    (if flags.spaced then ['x'] else [])

/-- The letters of the flags as a text. -/
def Flags.text (flags : Flags) : String := String.ofList flags.letters

/-- The switches that flags turn on from the start. -/
def Flags.switches (flags : Flags) : Switches where
  ignoreCase := flags.ignoreCase
  multiLine := flags.multiLine
  dotAll := flags.dotAll

/-- The expression of a source text: the text must be well-formed, its classes must be known, and
its machine must not be too large, as far as `Expr.size` tells. -/
def resolve (source : String) (flags : Flags) : Except Fault Expr := do
  let tree ← readTree flags.spaced source.toList
  let (expr, _) ← tree.resolve flags.switches
  if sizeLimit < expr.size then throw (.tooLarge sizeLimit)
  pure expr

end Pattern

/-- A regular expression that is known to be meaningful. -/
structure Pattern where
  /-- The text between the slashes, as written. -/
  source : String
  flags : Pattern.Flags
  expr : Pattern.Expr
  resolves : Pattern.resolve source flags = .ok expr

namespace Pattern

/-- A pattern with given flags. -/
def ofFlags (source : String) (flags : Flags) : Except Fault Pattern :=
  match h : resolve source flags with
  | .error fault => .error fault
  | .ok expr => .ok ⟨source, flags, expr, h⟩

/-- Reads a literal from its two parts. -/
def read (source flags : String) : Except Fault Pattern := do
  ofFlags source (← Flags.ofLetters flags.toList)

/-- The pattern as it is written. -/
def text (p : Pattern) : String := "/" ++ p.source ++ "/" ++ p.flags.text

/-- Patterns are ordered by source, then by flags. -/
def compare (p q : Pattern) : Ordering :=
  (Ord.compare p.source q.source).then (Ord.compare p.flags.text q.flags.text)

/-- The pattern as a program. -/
def program (p : Pattern) : Program := p.expr.program

/-- Whether the pattern matches anywhere in the text. -/
def isMatch (p : Pattern) (text : String) : Bool := p.program.isMatch text.toList

/-- The names of the captures; entry `i` belongs to capture `i + 1`. -/
def groups (p : Pattern) : Array (Option String) := p.expr.groups

@[ext]
theorem ext {p q : Pattern} (hs : p.source = q.source) (hf : p.flags = q.flags) : p = q := by
  obtain ⟨s, f, e, h⟩ := p
  obtain ⟨s', f', e', h'⟩ := q
  simp only at hs hf
  subst hs hf
  have : e = e' := by rw [h] at h'; exact Except.ok.inj h'
  subst this
  rfl

instance : DecidableEq Pattern := fun p q =>
  if h : p.source = q.source ∧ p.flags = q.flags then isTrue (ext h.1 h.2)
  else isFalse fun e => h ⟨by rw [e], by rw [e]⟩

end Pattern

end PostFilter
