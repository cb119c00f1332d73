/-!
# Text — blanks

The characters with the White_Space property, and trimming by them. All functions work on character
lists; `trim` also has a form on strings.
-/

namespace PostFilter.Text

/-- Whether `c` is white space: the ASCII blanks, the next-line character, the no-break space and
the spaces and separators of the general punctuation and ideographic blocks. -/
def isBlank (c : Char) : Bool :=
  let n := c.toNat
  n == 0x20 || (0x09 ≤ n && n ≤ 0x0D) || n == 0x85 || n == 0xA0 || n == 0x1680 ||
    (0x2000 ≤ n && n ≤ 0x200A) || n == 0x2028 || n == 0x2029 || n == 0x202F || n == 0x205F ||
    n == 0x3000

/-- The text without its leading blanks. -/
def trimStart (s : List Char) : List Char := s.dropWhile isBlank

/-- The text without its trailing blanks. -/
def trimEnd (s : List Char) : List Char := (s.reverse.dropWhile isBlank).reverse

/-- The text without the blanks around it. -/
def trimList (s : List Char) : List Char := trimEnd (trimStart s)

/-- The text without the blanks around it. -/
def trim (s : String) : String := String.ofList (trimList s.toList)

/-- Whether the text is its own trimmed form. -/
def IsTrimmed (s : String) : Prop := trim s = s

instance (s : String) : Decidable (IsTrimmed s) := inferInstanceAs (Decidable (_ = _))

/-- Splits at the first character that satisfies `p`, which is in neither part. -/
def splitFirst? (p : Char → Bool) : List Char → Option (List Char × List Char)
  | [] => none
  | c :: rest => if p c then some ([], rest) else (splitFirst? p rest).map fun (a, b) => (c :: a, b)

theorem length_of_splitFirst? {p : Char → Bool} {s a b : List Char}
    (h : splitFirst? p s = some (a, b)) : b.length < s.length := by
  induction s generalizing a b with
  | nil => simp [splitFirst?] at h
  | cons c rest ih =>
    simp only [splitFirst?] at h
    split at h
    · simp only [Option.some.injEq, Prod.mk.injEq] at h
      simp [← h.2]
    · simp only [Option.map_eq_some_iff, Prod.mk.injEq, Prod.exists] at h
      obtain ⟨a', b', h', -, rfl⟩ := h
      have := ih h'
      simp only [List.length_cons]; omega

/-- The parts between the characters that satisfy `p`; there is always at least one. -/
def splitAll (p : Char → Bool) : List Char → List (List Char)
  | [] => [[]]
  | c :: rest =>
    if p c then [] :: splitAll p rest
    else
      match splitAll p rest with
      | [] => [[c]]
      | part :: parts => (c :: part) :: parts

end PostFilter.Text
