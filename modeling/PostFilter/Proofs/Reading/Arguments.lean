import PostFilter.Document.WellFormed
import PostFilter.Proofs.Text.Numeral
import PostFilter.Proofs.Text.Parts

/-!
# Documents — arguments are read as they are written

The arguments that hold no free text and no pattern: ranges, image bounds, checks and signatures.
Each reader is given the written form of a well-formed value, and gives the value back
(`parseArgument_written`).

A number is written in digits, so the signs between numbers are never part of one. What characters
occur in a written form is said by a class for each of them; no class has a blank or a parenthesis.
-/

namespace PostFilter.Document

open Text

/-! ### Classes of characters -/

/-- The characters of ranges. -/
def isRangeChar (c : Char) : Bool := isDigit c || c == '-'

/-- The characters of dimensions. -/
def isDimensionChar (c : Char) : Bool := isDigit c || c == 'x'

/-- The characters of size ranges. -/
def isSizeChar (c : Char) : Bool := isDimensionChar c || c == '-'

/-- The characters of image bounds. -/
def isImageChar (c : Char) : Bool :=
  isSizeChar c || c == '@' || c == '<' || c == '=' || c == '>'

/-- The characters of all arguments but free texts and patterns. -/
def isPlainChar (c : Char) : Bool :=
  isImageChar c || c == ',' || isHexDigit c || ('a' ≤ c && c ≤ 'z')

theorem isBlank_of_isPlainChar {c : Char} (h : isPlainChar c = true) : isBlank c = false :=
  isBlank_eq_false (by decide) h

/-- A character of a class is none that the class misses. -/
theorem beq_eq_false {p : Char → Bool} {c d : Char} (hc : p c = true) (hd : p d = false) :
    (c == d) = false :=
  beq_eq_false_iff_ne.2 fun h => by rw [h, hd] at hc; cases hc

/-! ### Numbers -/

@[simp] theorem toList_decimal (n : Nat) : (decimal n).toList = decimalDigits n :=
  String.toList_ofList

theorem digits_beq {n : Nat} {d : Char} (hd : isDigit d = false) :
    ∀ c ∈ decimalDigits n, (c == d) = false :=
  fun _ hc => beq_eq_false (isDigit_of_mem_decimalDigits hc) hd

theorem isPlainChar_of_isDigit {c : Char} (h : isDigit c = true) : isPlainChar c = true := by
  simp [isPlainChar, isImageChar, isSizeChar, isDimensionChar, h]

theorem trimList_digits (n : Nat) : trimList (decimalDigits n) = decimalDigits n :=
  trimList_eq_self fun _ hc =>
    isBlank_of_isPlainChar (isPlainChar_of_isDigit (isDigit_of_mem_decimalDigits hc))

theorem readNumber_digits (n : UInt64) : readNumber (decimalDigits n.toNat) = .ok n := by
  rw [readNumber, decimalValue?_decimalDigits]
  have hn : n.toNat < UInt64.size := n.toNat_lt
  simp only [hn, if_true, UInt64.ofNat_toNat]

/-! ### Ranges -/

theorem toList_text_range (r : NumberRange) :
    r.text.toList = if r.min = r.max then decimalDigits r.min.toNat
      else decimalDigits r.min.toNat ++ '-' :: decimalDigits r.max.toNat := by
  rw [NumberRange.text]
  split
  · exact toList_decimal _
  · simp

theorem isRangeChar_of_mem {r : NumberRange} : ∀ c ∈ r.text.toList, isRangeChar c = true := by
  intro c hc
  rw [toList_text_range] at hc
  have digit {n : Nat} (h : c ∈ decimalDigits n) : isRangeChar c = true := by
    rw [isRangeChar, isDigit_of_mem_decimalDigits h, Bool.true_or]
  split at hc
  · exact digit hc
  · rcases List.mem_append.1 hc with hc | hc
    · exact digit hc
    · rcases List.mem_cons.1 hc with rfl | hc
      · rfl
      · exact digit hc

theorem text_range_ne_nil (r : NumberRange) : r.text.toList ≠ [] := by
  rw [toList_text_range]
  split
  · exact decimalDigits_ne_nil _
  · exact List.append_ne_nil_of_right_ne_nil _ (List.cons_ne_nil _ _)

theorem isPlainChar_of_isRangeChar {c : Char} (h : isRangeChar c = true) :
    isPlainChar c = true := by
  rw [isRangeChar, Bool.or_eq_true] at h
  rcases h with h | h
  · exact isPlainChar_of_isDigit h
  · simp [isPlainChar, isImageChar, isSizeChar, h]

theorem trimList_range (r : NumberRange) : trimList r.text.toList = r.text.toList :=
  trimList_eq_self fun c hc =>
    isBlank_of_isPlainChar (isPlainChar_of_isRangeChar (isRangeChar_of_mem c hc))

/-- **A range is read as it is written.** -/
theorem readRange_text {r : NumberRange} (h : r.IsOrdered) : readRange r.text.toList = .ok r := by
  obtain ⟨min, max⟩ := r
  have hle : ¬ max < min := UInt64.not_lt.2 h
  rw [toList_text_range, readRange]
  by_cases heq : min = max
  · rw [if_pos heq, splitFirst?_eq_none (digits_beq rfl)]
    simp only [readNumber_digits, NumberRange.single, heq]
    rfl
  · rw [if_neg heq, splitFirst?_append rfl (digits_beq rfl)]
    simp only [trimList_digits, readNumber_digits]
    simp [bind, Except.bind, pure, Except.pure, hle]

theorem toList_text_ranges (rs : List NumberRange) :
    (",".intercalate (rs.map NumberRange.text)).toList =
      ([','] : List Char).intercalate (rs.map fun r => r.text.toList) := by
  rw [String.toList_intercalate, List.map_map]
  rfl

theorem mapM_readRange : ∀ {rs : List NumberRange}, (∀ r ∈ rs, r.IsOrdered) →
    (rs.map fun r => r.text.toList).mapM (fun part => readRange (trimList part)) = .ok rs
  | [], _ => rfl
  | r :: rs, h => by
      rw [List.map_cons, List.mapM_cons, trimList_range, readRange_text (h r List.mem_cons_self),
        mapM_readRange fun q hq => h q (List.mem_cons_of_mem _ hq)]
      rfl

theorem readRanges_text {rs : List NumberRange} (hne : rs ≠ []) (h : ∀ r ∈ rs, r.IsOrdered) :
    readRanges (",".intercalate (rs.map NumberRange.text)).toList = .ok rs := by
  rw [readRanges, toList_text_ranges, splitAll_intercalate rfl (by simpa using hne),
    mapM_readRange h]
  intro part hpart c hc
  obtain ⟨r, -, rfl⟩ := List.mem_map.1 hpart
  exact beq_eq_false (isRangeChar_of_mem c hc) rfl

/-! ### Sizes -/

theorem toList_text_dimensions (d : Dimensions) :
    d.text.toList = decimalDigits d.width.toNat ++ 'x' :: decimalDigits d.height.toNat := by
  simp [Dimensions.text]

theorem isDimensionChar_of_mem {d : Dimensions} :
    ∀ c ∈ d.text.toList, isDimensionChar c = true := by
  intro c hc
  rw [toList_text_dimensions, List.mem_append, List.mem_cons] at hc
  rcases hc with hc | rfl | hc
  · rw [isDimensionChar, isDigit_of_mem_decimalDigits hc, Bool.true_or]
  · rfl
  · rw [isDimensionChar, isDigit_of_mem_decimalDigits hc, Bool.true_or]

theorem isPlainChar_of_isDimensionChar {c : Char} (h : isDimensionChar c = true) :
    isPlainChar c = true := by
  simp [isPlainChar, isImageChar, isSizeChar, h]

theorem trimList_dimensions (d : Dimensions) : trimList d.text.toList = d.text.toList :=
  trimList_eq_self fun c hc =>
    isBlank_of_isPlainChar (isPlainChar_of_isDimensionChar (isDimensionChar_of_mem c hc))

theorem readDimension_digits (n : UInt32) :
    readDimension (decimalDigits n.toNat) = .ok n := by
  have hn : n.toNat < UInt32.size := n.toNat_lt
  have h64 : n.toUInt64.toNat = n.toNat := UInt32.toNat_toUInt64 n
  rw [readDimension, trimList_digits, ← h64, readNumber_digits]
  simp [bind, Except.bind, pure, Except.pure, hn]

theorem readDimensions_text (d : Dimensions) : readDimensions d.text.toList = .ok d := by
  rw [readDimensions, toList_text_dimensions, splitFirst?_append rfl (digits_beq rfl)]
  simp only [readDimension_digits]
  rfl

theorem toList_text_size (r : SizeRange) :
    r.text.toList = if r.min = r.max then r.min.text.toList
      else r.min.text.toList ++ '-' :: r.max.text.toList := by
  rw [SizeRange.text]
  split
  · rfl
  · simp

theorem isSizeChar_of_mem {r : SizeRange} : ∀ c ∈ r.text.toList, isSizeChar c = true := by
  intro c hc
  rw [toList_text_size] at hc
  have dimension {d : Dimensions} (h : c ∈ d.text.toList) : isSizeChar c = true := by
    rw [isSizeChar, isDimensionChar_of_mem c h, Bool.true_or]
  split at hc
  · exact dimension hc
  · rcases List.mem_append.1 hc with hc | hc
    · exact dimension hc
    · rcases List.mem_cons.1 hc with rfl | hc
      · rfl
      · exact dimension hc

theorem isPlainChar_of_isSizeChar {c : Char} (h : isSizeChar c = true) : isPlainChar c = true := by
  simp [isPlainChar, isImageChar, h]

theorem trimList_size (r : SizeRange) : trimList r.text.toList = r.text.toList :=
  trimList_eq_self fun c hc =>
    isBlank_of_isPlainChar (isPlainChar_of_isSizeChar (isSizeChar_of_mem c hc))

/-- **A size range is read as it is written.** -/
theorem readSizeRange_text {r : SizeRange} (h : r.IsOrdered) :
    readSizeRange r.text.toList = .ok r := by
  obtain ⟨min, max⟩ := r
  have hwidth : ¬ max.width < min.width := UInt32.not_lt.2 h.1
  have hheight : ¬ max.height < min.height := UInt32.not_lt.2 h.2
  have dash (d : Dimensions) : ∀ c ∈ d.text.toList, (c == '-') = false :=
    fun c hc => beq_eq_false (isDimensionChar_of_mem c hc) rfl
  rw [toList_text_size, readSizeRange]
  by_cases heq : min = max
  · rw [if_pos heq, splitFirst?_eq_none (dash min)]
    simp only [readDimensions_text, heq]
    rfl
  · rw [if_neg heq, splitFirst?_append rfl (dash min)]
    simp only [trimList_dimensions, readDimensions_text]
    simp [bind, Except.bind, pure, Except.pure, hwidth, hheight]

/-! ### Image bounds -/

/-- The part of an image bound before `@`. -/
def weightText (weight : Option NumberRange) : List Char :=
  (weight.map fun r => r.text.toList).getD []

theorem toList_text_image (b : ImageBound) :
    b.text.toList = b.cmp.sign :: (weightText b.weight ++
      (b.size.map fun r => '@' :: r.text.toList).getD []) := by
  obtain ⟨cmp, weight, size⟩ := b
  cases weight <;> cases size <;> simp [ImageBound.text, weightText, Char.toString_eq_singleton]

theorem isRangeChar_of_mem_weight {weight : Option NumberRange} :
    ∀ c ∈ weightText weight, isRangeChar c = true := by
  intro c hc
  cases weight with
  | none => cases hc
  | some r => exact isRangeChar_of_mem c hc

theorem trimList_weight (weight : Option NumberRange) :
    trimList (weightText weight) = weightText weight :=
  trimList_eq_self fun c hc =>
    isBlank_of_isPlainChar (isPlainChar_of_isRangeChar (isRangeChar_of_mem_weight c hc))

theorem readWeight_text {weight : Option NumberRange} (h : ∀ r ∈ weight, r.IsOrdered) :
    readWeight (weightText weight) = .ok weight := by
  cases weight with
  | none => rfl
  | some r =>
      have hne : r.text.toList.isEmpty = false := by
        rw [List.isEmpty_eq_false_iff]
        exact text_range_ne_nil r
      rw [readWeight, weightText, Option.map_some, Option.getD_some, hne, readRange_text (h r rfl)]
      rfl

theorem isPlainChar_of_mem_image {b : ImageBound} :
    ∀ c ∈ b.text.toList, isPlainChar c = true := by
  intro c hc
  rw [toList_text_image, List.mem_cons, List.mem_append] at hc
  rcases hc with rfl | hc | hc
  · cases b.cmp <;> rfl
  · exact isPlainChar_of_isRangeChar (isRangeChar_of_mem_weight c hc)
  · cases hsize : b.size with
    | none => rw [hsize] at hc; cases hc
    | some r =>
        rw [hsize, Option.map_some, Option.getD_some, List.mem_cons] at hc
        rcases hc with rfl | hc
        · rfl
        · exact isPlainChar_of_isSizeChar (isSizeChar_of_mem c hc)

theorem ofSign?_sign (cmp : Comparison) : Comparison.ofSign? cmp.sign = some cmp := by
  cases cmp <;> rfl

/-- **An image bound is read as it is written.** -/
theorem readImageBound_text {b : ImageBound} (h : b.IsWellFormed) :
    readImageBound b.text.toList = .ok b := by
  obtain ⟨cmp, weight, size⟩ := b
  have htrim : trimList (weightText weight ++ (size.map fun r => '@' :: r.text.toList).getD []) =
      weightText weight ++ (size.map fun r => '@' :: r.text.toList).getD [] := by
    refine trimList_eq_self fun c hc => isBlank_of_isPlainChar ?_
    refine isPlainChar_of_mem_image (b := ⟨cmp, weight, size⟩) c ?_
    rw [toList_text_image]
    exact List.mem_cons_of_mem _ hc
  have hat : ∀ c ∈ weightText weight, (c == '@') = false :=
    fun c hc => beq_eq_false (isRangeChar_of_mem_weight c hc) rfl
  have hweight : readWeight (weightText weight) = .ok weight :=
    readWeight_text fun r hr => (h.weight r hr).1
  -- Only `=` goes with a range of more than one value, for the weight and for the size alike.
  have hproper : ((weight.any fun r => r.min != r.max) || (size.any fun r => r.min != r.max)) = true
      → cmp = .equal := by
    intro hp
    rw [Bool.or_eq_true] at hp
    rcases hp with hp | hp
    · obtain ⟨r, hr, hne⟩ := (Option.any_eq_true _ _).1 hp
      exact (h.weight r hr).2 (bne_iff_ne.1 hne)
    · obtain ⟨r, hr, hne⟩ := (Option.any_eq_true _ _).1 hp
      exact (h.size r hr).2 (bne_iff_ne.1 hne)
  have hcmp : (((weight.any fun r => r.min != r.max) || (size.any fun r => r.min != r.max)) &&
      cmp != .equal) = false := by
    rw [Bool.and_eq_false_iff]
    refine (Bool.eq_false_or_eq_true _).symm.imp id fun hp => ?_
    rw [hproper hp]
    rfl
  rw [toList_text_image, readImageBound]
  simp only [ofSign?_sign, htrim]
  cases size with
  | none =>
      have hsome : weight.isNone = false := by
        cases weight with
        | none => exact absurd h.bounds (by simp)
        | some r => rfl
      simp only [Option.map_none, Option.getD_none, List.append_nil,
        splitFirst?_eq_none hat, hweight]
      simp only [bind, Except.bind, pure, Except.pure, hsome, Bool.false_and, Bool.false_eq_true,
        if_false, hcmp]
  | some r =>
      have hsize := readSizeRange_text (h.size r rfl).1
      have hsplit : splitFirst? (· == '@') (weightText weight ++ '@' :: r.text.toList) =
          some (weightText weight, r.text.toList) := splitFirst?_append rfl hat
      simp only [Option.map_some, Option.getD_some, hsplit, trimList_weight, trimList_size, hweight,
        hsize]
      simp only [bind, Except.bind, pure, Except.pure, Option.isNone_some, Bool.and_false,
        Bool.false_eq_true, if_false, hcmp]

/-! ### Checks -/

theorem ofWord?_word_check : ∀ check : Check, Check.ofWord? check.word = some check
  | .sameLines | .sameWords | .longWords | .symbols | .capsLock | .numbers | .whitespace => by
      decide

theorem isPlainChar_of_mem_word (check : Check) : ∀ c ∈ check.word.toList,
    isPlainChar c = true ∧ (c == ',') = false := by
  have hall : (check.word.toList.all fun c => isPlainChar c && !(c == ',')) = true := by
    cases check <;> decide
  intro c hc
  have hchar := List.all_eq_true.1 hall c hc
  rwa [Bool.and_eq_true, Bool.not_eq_true'] at hchar

theorem toList_text_checks (cs : Checks) :
    cs.text.toList = ([','] : List Char).intercalate (cs.toList.map fun c => c.word.toList) := by
  rw [Checks.text, String.toList_intercalate, List.map_map]
  rfl

theorem mapM_readCheck : ∀ checks : List Check,
    (checks.map fun c => c.word.toList).mapM (fun part => readCheck (trimList part)) = .ok checks
  | [] => rfl
  | check :: checks => by
      have htrim : trimList check.word.toList = check.word.toList :=
        trimList_eq_self fun c hc => isBlank_of_isPlainChar (isPlainChar_of_mem_word check c hc).1
      have hread : readCheck check.word.toList = .ok check := by
        rw [readCheck, String.ofList_toList, ofWord?_word_check]
      rw [List.map_cons, List.mapM_cons, htrim, hread, mapM_readCheck checks]
      rfl

theorem foldl_insert_ofNat : ∀ n, n < 128 →
    (Checks.toList ⟨UInt8.ofNat n⟩).foldl Checks.insert .none = ⟨UInt8.ofNat n⟩ := by
  decide +kernel

/-- A set of the seven checks is made of its members. -/
theorem foldl_insert_toList {cs : Checks} (h : cs.bits ≤ 127) :
    cs.toList.foldl Checks.insert .none = cs := by
  have hn : cs.bits.toNat < 128 := Nat.lt_succ_of_le (UInt8.le_iff_toNat_le.1 h)
  have hset := foldl_insert_ofNat cs.bits.toNat hn
  rwa [UInt8.ofNat_toNat] at hset

theorem toList_checks_ne_nil {cs : Checks} (h : cs.IsWellFormed) : cs.toList ≠ [] := by
  intro hnil
  have hset := foldl_insert_toList h.2
  rw [hnil] at hset
  exact h.1 (congrArg Checks.bits hset).symm

theorem readChecks_text {cs : Checks} (h : cs.IsWellFormed) :
    readChecks cs.text.toList = .ok cs := by
  rw [readChecks, toList_text_checks, splitAll_intercalate rfl
    (by simpa using toList_checks_ne_nil h), mapM_readCheck]
  · exact congrArg Except.ok (foldl_insert_toList h.2)
  · intro part hpart c hc
    obtain ⟨check, -, rfl⟩ := List.mem_map.1 hpart
    exact (isPlainChar_of_mem_word check c hc).2

/-! ### Signatures -/

theorem toList_text_signature (hash : UInt64) :
    ("0x" ++ hex16 hash).toList = '0' :: 'x' :: hexDigits 16 hash.toNat := by
  simp [hex16]

theorem readSignature_hex (hash : UInt64) :
    readSignature ("0x" ++ hex16 hash).toList = .ok hash := by
  have hne : (hexDigits 16 hash.toNat).isEmpty = false := by
    rw [List.isEmpty_eq_false_iff, ← List.length_pos_iff, length_hexDigits]
    decide
  have hall : (hexDigits 16 hash.toNat).all isHexDigit = true :=
    List.all_eq_true.2 fun c hc => isHexDigit_of_mem_hexDigits hc
  have hvalue : valueOf 16 (hexDigits 16 hash.toNat) = hash.toNat := by
    rw [valueOf_hexDigits]
    exact Nat.mod_eq_of_lt hash.toNat_lt
  have hlt : hash.toNat < UInt64.size := hash.toNat_lt
  rw [toList_text_signature, readSignature]
  simp [hne, hall, hvalue, hlt]

/-! ### All shapes -/

/-- The arguments that are read from the text between the parentheses. -/
def IsPlain (shape : ArgumentShape) : Prop :=
  shape = .ranges ∨ shape = .image ∨ shape = .checks ∨ shape = .signature

theorem isPlainChar_of_mem_intercalate {parts : List (List Char)}
    (h : ∀ part ∈ parts, ∀ c ∈ part, isPlainChar c = true) :
    ∀ c ∈ ([','] : List Char).intercalate parts, isPlainChar c = true := by
  intro c hc
  induction parts with
  | nil => cases hc
  | cons part parts ih =>
      cases parts with
      | nil =>
          rw [List.intercalate_singleton] at hc
          exact h part List.mem_cons_self c hc
      | cons next parts =>
          rw [List.intercalate_cons_cons, List.append_assoc, List.mem_append, List.mem_append,
            List.mem_singleton] at hc
          rcases hc with hc | rfl | hc
          · exact h part List.mem_cons_self c hc
          · rfl
          · exact ih (fun q hq => h q (List.mem_cons_of_mem _ hq)) hc

/-- The written form of a plain argument has plain characters. -/
theorem isPlainChar_of_mem_written {a : Argument} (ha : IsPlain a.shape) :
    ∀ c ∈ a.written.toList, isPlainChar c = true := by
  intro c hc
  cases a with
  | text t => rcases ha with ha | ha | ha | ha <;> cases ha
  | pattern p => rcases ha with ha | ha | ha | ha <;> cases ha
  | ranges rs =>
      rw [Argument.written, toList_text_ranges] at hc
      refine isPlainChar_of_mem_intercalate (fun part hpart c hc => ?_) c hc
      obtain ⟨r, -, rfl⟩ := List.mem_map.1 hpart
      exact isPlainChar_of_isRangeChar (isRangeChar_of_mem c hc)
  | image b => exact isPlainChar_of_mem_image c hc
  | checks cs =>
      rw [Argument.written, toList_text_checks] at hc
      refine isPlainChar_of_mem_intercalate (fun part hpart c hc => ?_) c hc
      obtain ⟨check, -, rfl⟩ := List.mem_map.1 hpart
      exact (isPlainChar_of_mem_word check c hc).1
  | signature hash =>
      rw [Argument.written, toList_text_signature, List.mem_cons, List.mem_cons] at hc
      rcases hc with rfl | rfl | hc
      · rfl
      · rfl
      · simp [isPlainChar, isHexDigit_of_mem_hexDigits hc]

/-- **Plain arguments are read as they are written.** -/
theorem parseArgument_written {a : Argument} (ha : IsPlain a.shape) (h : a.IsWellFormed) :
    parseArgument a.shape a.written.toList = .ok a := by
  cases a with
  | text t => rcases ha with ha | ha | ha | ha <;> cases ha
  | pattern p => rcases ha with ha | ha | ha | ha <;> cases ha
  | ranges rs => exact congrArg (Except.map Argument.ranges) (readRanges_text h.1 h.2)
  | image b => exact congrArg (Except.map Argument.image) (readImageBound_text h)
  | checks cs => exact congrArg (Except.map Argument.checks) (readChecks_text h)
  | signature hash =>
      rw [Argument.written, Argument.shape, parseArgument, readSignature_hex]
      rfl

end PostFilter.Document
