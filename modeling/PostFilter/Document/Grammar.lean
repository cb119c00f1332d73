import PostFilter.Document.WellFormed

/-!
# Documents — the grammar

Which texts stand for which values. Every relation here says of a value and a text that the text is
a way to write the value, by what the text is put together from; nothing is said of how it is read.

```
document    := blank* (statement inline* (end | newline document))?
statement   := replacement | chain
chain       := operand (blank* ("&" | "|") blank* operand)*
operand     := ("!" blank*)? (spell | group)
group       := "(" blank* chain blank* ")"
spell       := "#" word scope? ("(" argument ")")?
replacement := "#" ("rep" | "outrep") scope? "(" inline* pattern inline* ("," text)? ")"
scope       := "[" board ("," (number | "-"))? "]"
```

Outside parentheses, only the blanks of a line stand behind `!`. Where an argument is neither a
pattern nor free text, and in a scope, every part may have any blanks around it.
-/

namespace PostFilter.Document

open Text

/-! ### Parts of texts -/

/-- A text of characters that satisfy `p`. -/
def MadeOf (p : Char → Bool) (s : List Char) : Prop := ∀ c ∈ s, p c = true

/-- A core, and characters that satisfy `p` around it. -/
inductive Around (p : Char → Bool) (core : List Char) : List Char → Prop where
  | mk {before after : List Char} (hbefore : MadeOf p before) (hafter : MadeOf p after) :
      Around p core (before ++ (core ++ after))

/-- Something that may be missing. -/
inductive OptionalText {α : Type} (Item : α → List Char → Prop) :
    Option α → List Char → Prop where
  | none : OptionalText Item none []
  | some {a : α} {s : List Char} (h : Item a s) : OptionalText Item (some a) s

/-- Items with commas between them. -/
inductive ListText {α : Type} (Item : α → List Char → Prop) : List α → List Char → Prop where
  | one {a : α} {s : List Char} (h : Item a s) : ListText Item [a] s
  | more {a : α} {as : List α} {s t : List Char} (h : Item a s) (hmore : ListText Item as t) :
      ListText Item (a :: as) (s ++ ',' :: t)

/-! ### Numbers and ranges -/

/-- Digits that spell a number. -/
structure DigitsText (base : Nat) (isDigit : Char → Bool) (n : UInt64) (s : List Char) :
    Prop where
  nonempty : s ≠ []
  digits : MadeOf isDigit s
  value : valueOf base s = n.toNat

/-- A decimal number with blanks around it. -/
inductive NumberText (n : UInt64) : List Char → Prop where
  | mk {digits s : List Char} (h : DigitsText 10 isDigit n digits) (hs : Around isBlank digits s) :
      NumberText n s

/-- A number, or two in order. -/
inductive RangeText : NumberRange → List Char → Prop where
  | single {n : UInt64} {s : List Char} (h : NumberText n s) : RangeText (.single n) s
  | between {r : NumberRange} {s t : List Char} (hmin : NumberText r.min s)
      (hmax : NumberText r.max t) (h : r.IsOrdered) : RangeText r (s ++ '-' :: t)

/-- Width and height. -/
inductive DimensionsText (d : Dimensions) : List Char → Prop where
  | mk {s t : List Char} (hwidth : NumberText d.width.toUInt64 s)
      (hheight : NumberText d.height.toUInt64 t) : DimensionsText d (s ++ 'x' :: t)

/-- Dimensions, or two in order. -/
inductive SizeText : SizeRange → List Char → Prop where
  | single {d : Dimensions} {s : List Char} (h : DimensionsText d s) : SizeText ⟨d, d⟩ s
  | between {r : SizeRange} {s t : List Char} (hmin : DimensionsText r.min s)
      (hmax : DimensionsText r.max t) (h : r.IsOrdered) : SizeText r (s ++ '-' :: t)

/-! ### Arguments of numbers and words -/

/-- The weight of an image bound; where there is none, there may be blanks. -/
inductive WeightText : Option NumberRange → List Char → Prop where
  | none {s : List Char} (h : MadeOf isBlank s) : WeightText none s
  | some {r : NumberRange} {s : List Char} (h : RangeText r s) : WeightText (some r) s

/-- What stands behind the sign of an image bound. -/
inductive BoundsText : Option NumberRange → Option SizeRange → List Char → Prop where
  | weight {weight : Option NumberRange} {s : List Char} (h : WeightText weight s) :
      BoundsText weight none s
  | size {weight : Option NumberRange} {size : SizeRange} {s t : List Char}
      (hweight : WeightText weight s) (hsize : SizeText size t) :
      BoundsText weight (some size) (s ++ '@' :: t)

/-- An image bound. -/
inductive ImageText (b : ImageBound) : List Char → Prop where
  | mk {before s : List Char} (hbefore : MadeOf isBlank before)
      (h : BoundsText b.weight b.size s) (hb : b.IsWellFormed) :
      ImageText b (before ++ b.cmp.sign :: s)

/-- The word of a check with blanks around it. -/
def CheckText (check : Check) (s : List Char) : Prop := Around isBlank check.word.toList s

/-- Checks in any order, and any number of times. -/
inductive ChecksText : Checks → List Char → Prop where
  | mk {checks : List Check} {s : List Char} (h : ListText CheckText checks s) :
      ChecksText (checks.foldl Checks.insert .none) s

/-- A hash in decimal or hexadecimal. -/
inductive SignatureText (n : UInt64) : List Char → Prop where
  | decimal {s : List Char} (h : NumberText n s) : SignatureText n s
  | hexadecimal {digits s : List Char} {x : Char} (hx : x = 'x' ∨ x = 'X')
      (h : DigitsText 16 isHexDigit n digits) (hs : Around isBlank ('0' :: x :: digits) s) :
      SignatureText n s

/-! ### Free text and patterns -/

/-- Whether a backslash before the character stands for the character alone. -/
def isEscapable (c : Char) : Bool := c == '(' || c == ')' || c == '\\'

/-- Free text with its escapes. A backslash that escapes nothing stands for itself. -/
inductive EscapedText : List Char → List Char → Prop where
  | nil : EscapedText [] []
  | plain {c : Char} {text s : List Char} (hparen : c ≠ ')') (hbackslash : c ≠ '\\')
      (h : EscapedText text s) : EscapedText (c :: text) (c :: s)
  | escaped {c : Char} {text s : List Char} (hc : isEscapable c = true) (h : EscapedText text s) :
      EscapedText (c :: text) ('\\' :: c :: s)
  | backslash {c : Char} {text s : List Char} (hc : isEscapable c = false)
      (h : EscapedText text (c :: s)) : EscapedText ('\\' :: text) ('\\' :: c :: s)

/-- The source of a pattern, from inside brackets on or not. A slash in it stands behind a backslash
or between brackets. -/
inductive SourceText : (inClass : Bool) → List Char → Prop where
  | nil : SourceText false []
  | escaped {inClass : Bool} (c : Char) {s : List Char} (h : SourceText inClass s) :
      SourceText inClass ('\\' :: c :: s)
  | opened {inClass : Bool} {s : List Char} (h : SourceText true s) : SourceText inClass ('[' :: s)
  | closed {inClass : Bool} {s : List Char} (h : SourceText false s) : SourceText inClass (']' :: s)
  | slash {s : List Char} (h : SourceText true s) : SourceText true ('/' :: s)
  | plain {inClass : Bool} {c : Char} {s : List Char} (hc : c ∉ ['\\', '[', ']', '/'])
      (h : SourceText inClass s) : SourceText inClass (c :: s)

/-- A pattern between slashes, and its flags. -/
inductive PatternText (p : Pattern) : List Char → Prop where
  | mk {source flags : List Char} (hne : source ≠ []) (hsource : SourceText false source)
      (hflags : MadeOf Char.isAlpha flags)
      (hp : Pattern.read (String.ofList source) (String.ofList flags) = .ok p) :
      PatternText p ('/' :: (source ++ '/' :: flags))

/-! ### Spells -/

/-- The name of a board with blanks around it. -/
inductive BoardText (board : String) : List Char → Prop where
  | mk {s : List Char} (hne : board ≠ "") (h : MadeOf isBoardChar board.toList)
      (hs : Around isBlank board.toList s) : BoardText board s

/-- A scope in its brackets. -/
inductive ScopeText : Scope → List Char → Prop where
  | anywhere {board : String} {s : List Char} (h : BoardText board s) :
      ScopeText ⟨board, .anywhere⟩ ('[' :: (s ++ [']']))
  | boardOnly {board : String} {s t : List Char} (h : BoardText board s)
      (ht : Around isBlank ['-'] t) :
      ScopeText ⟨board, .boardOnly⟩ ('[' :: (s ++ ',' :: (t ++ [']'])))
  | thread {board : String} {n : UInt64} {s t : List Char} (h : BoardText board s)
      (ht : NumberText n t) :
      ScopeText ⟨board, .thread n⟩ ('[' :: (s ++ ',' :: (t ++ [']'])))

/-- An argument without its parentheses. Free text loses the blanks around it. -/
inductive ArgumentText : Argument → List Char → Prop where
  | text {text s : List Char} (h : EscapedText text s) (hne : trimList text ≠ []) :
      ArgumentText (.text (String.ofList (trimList text))) s
  | pattern {p : Pattern} {core s : List Char} (h : PatternText p core)
      (hs : Around isInlineBlank core s) : ArgumentText (.pattern p) s
  | ranges {rs : List NumberRange} {s : List Char} (h : ListText RangeText rs s) :
      ArgumentText (.ranges rs) s
  | image {b : ImageBound} {s : List Char} (h : ImageText b s) : ArgumentText (.image b) s
  | checks {cs : Checks} {s : List Char} (h : ChecksText cs s) : ArgumentText (.checks cs) s
  | signature {n : UInt64} {s : List Char} (h : SignatureText n s) : ArgumentText (.signature n) s

/-- What stands behind the word and the scope of a spell: an argument in parentheses or nothing, as
the kind requires. -/
inductive ArgumentPartText (kind : Kind) : Option Argument → List Char → Prop where
  | none (h : kind.requirement ≠ .required) : ArgumentPartText kind none []
  | some {a : Argument} {s : List Char} (hallowed : kind.requirement ≠ .forbidden)
      (hshape : a.shape = kind.shape) (h : ArgumentText a s) :
      ArgumentPartText kind (some a) ('(' :: (s ++ [')']))

/-- A spell without its negation. -/
inductive SpellText : Spell → List Char → Prop where
  | mk {kind : Kind} {argument : Option Argument} {scope : Option Scope} {s t : List Char}
      (hscope : OptionalText ScopeText scope s) (hargument : ArgumentPartText kind argument t) :
      SpellText ⟨kind, argument, scope, false⟩ ('#' :: (kind.word.toList ++ (s ++ t)))

/-- A spell that needs no argument may be its word alone. -/
theorem SpellText.ofKind {kind : Kind} (h : kind.requirement ≠ .required) :
    SpellText { kind := kind } ('#' :: kind.word.toList) := by
  have htext : SpellText { kind := kind } ('#' :: (kind.word.toList ++ ([] ++ []))) :=
    .mk .none (.none h)
  rwa [List.append_nil, List.append_nil] at htext

/-! ### Chains -/

/-- The blanks inside parentheses or, with `inside` false, outside them. -/
def isBlankIn (inside : Bool) : Char → Bool := if inside then isAnyBlank else isInlineBlank

/-- Operands with joiners between them. -/
inductive ChainText (Operand : Clause → List Char → Prop) : List Member → List Char → Prop where
  | one {c : Clause} {s : List Char} (h : Operand c s) : ChainText Operand [⟨c, .or⟩] s
  | more {c : Clause} {joiner : Joiner} {members : List Member} {s before after t : List Char}
      (h : Operand c s) (hbefore : MadeOf isAnyBlank before) (hafter : MadeOf isAnyBlank after)
      (hmore : ChainText Operand members t) :
      ChainText Operand (⟨c, joiner⟩ :: members) (s ++ (before ++ joiner.sign :: (after ++ t)))

/-- A chain in parentheses. -/
inductive GroupText (Operand : Clause → List Char → Prop) : Group → List Char → Prop where
  | mk {members : List Member} {before s after : List Char} (hbefore : MadeOf isAnyBlank before)
      (h : ChainText Operand members s) (hafter : MadeOf isAnyBlank after) :
      GroupText Operand ⟨false, members⟩ ('(' :: (before ++ (s ++ (after ++ [')']))))

/-- An operand without its negation. -/
inductive PlainOperandText (InParentheses : Group → List Char → Prop) :
    Clause → List Char → Prop where
  | spell {s : Spell} {text : List Char} (h : SpellText s text) :
      PlainOperandText InParentheses (.spell s) text
  | group {g : Group} {text : List Char} (h : InParentheses g text) :
      PlainOperandText InParentheses (.group g) text

/-- A spell or a group, perhaps with one `!` before it. -/
inductive OperandText (inside : Bool) (InParentheses : Group → List Char → Prop) :
    Clause → List Char → Prop where
  | plain {c : Clause} {s : List Char} (h : PlainOperandText InParentheses c s) :
      OperandText inside InParentheses c s
  | negated {c : Clause} {blanks s : List Char} (hblanks : MadeOf (isBlankIn inside) blanks)
      (h : PlainOperandText InParentheses c s) :
      OperandText inside InParentheses c.negate ('!' :: (blanks ++ s))

/-- A group in which parentheses are nested at most `levels` deep, its own ones counted. -/
def GroupTextWithin : (levels : Nat) → Group → List Char → Prop
  | 0, _, _ => False
  | levels + 1, g, s => GroupText (OperandText true (GroupTextWithin levels)) g s

/-! ### Documents -/

/-- The template of a replacement rule behind a comma, or nothing. -/
inductive TemplateText : List Char → List Char → Prop where
  | none : TemplateText [] []
  | some {text s : List Char} (h : EscapedText text s) : TemplateText text (',' :: s)

/-- A replacement rule. -/
inductive ReplacementText (direction : Direction) : Replacement → List Char → Prop where
  | mk {scope : Option Scope} {p : Pattern} {text s core pattern template : List Char}
      (hscope : OptionalText ScopeText scope s) (hcore : PatternText p core)
      (hpattern : Around isInlineBlank core pattern) (htext : TemplateText text template) :
      ReplacementText direction (.make scope p (String.ofList text))
        ('#' :: (direction.word.toList ++ (s ++ '(' :: (pattern ++ (template ++ [')'])))))

/-- A statement. One operand stands for itself, and several are a group. -/
inductive StatementText (levels : Nat) : Statement → List Char → Prop where
  | operand {c : Clause} {s : List Char} (h : OperandText false (GroupTextWithin levels) c s) :
      StatementText levels (.clause c) s
  | chain {members : List Member} {s : List Char} (hseveral : 2 ≤ members.length)
      (h : ChainText (OperandText false (GroupTextWithin levels)) members s) :
      StatementText levels (.clause (.group ⟨false, members⟩)) s
  | replacement {direction : Direction} {rule : Replacement} {s : List Char}
      (h : ReplacementText direction rule s) : StatementText levels (.replacement direction rule) s

/-- Whether a line ends before this text. -/
def EndsLine (rest : List Char) : Prop := ∀ c ∈ rest.head?, c = '\n'

/-- Statements, of which each ends its line, with blanks and empty lines around them. -/
inductive DocumentText (levels : Nat) : List Statement → List Char → Prop where
  | blank {s : List Char} (h : MadeOf isAnyBlank s) : DocumentText levels [] s
  | more {statement : Statement} {statements : List Statement} {before s after rest : List Char}
      (hbefore : MadeOf isAnyBlank before) (h : StatementText levels statement s)
      (hafter : MadeOf isInlineBlank after) (hend : EndsLine rest)
      (hmore : DocumentText levels statements rest) :
      DocumentText levels (statement :: statements) (before ++ (s ++ (after ++ rest)))

end PostFilter.Document
