import PostFilter.Document.Grammar
import PostFilter.Proofs.Accepted.Arguments
import PostFilter.Proofs.Reading.Arguments
import PostFilter.Proofs.Text.Trimming

/-!
# Documents — arguments are read by the grammar

A reader of arguments is given a text without the blanks around it. It has a result exactly if the
text with them stands for that result by the grammar; there is one lemma for each reader, from those
of the readers that it calls. Where a text is split at a sign, the part before it does not have that
sign, since each part is made of blanks and the characters of a class (`Spaced`).

* `parseArgument_trimList_iff` — all arguments but free texts and patterns.
-/

namespace PostFilter.Document

open Text

/-! ### Results -/

section Results

variable {ε α β : Type}

theorem bind_eq_ok_iff {x : Except ε α} {f : α → Except ε β} {b : β} :
    x >>= f = .ok b ↔ ∃ a, x = .ok a ∧ f a = .ok b := by
  cases x with
  | error e => exact ⟨fun h => (by cases h), fun ⟨a, ha, _⟩ => (by cases ha)⟩
  | ok a => exact ⟨fun h => ⟨a, rfl, h⟩, fun ⟨a', ha, h⟩ => by cases ha; exact h⟩

theorem map_eq_ok_iff {x : Except ε α} {f : α → β} {b : β} :
    x.map f = .ok b ↔ ∃ a, x = .ok a ∧ f a = b := by
  cases x with
  | error e => exact ⟨fun h => (by cases h), fun ⟨a, ha, _⟩ => (by cases ha)⟩
  | ok a =>
      exact ⟨fun h => ⟨a, rfl, Except.ok.inj h⟩, fun ⟨a', ha, h⟩ => by cases ha; exact congrArg _ h⟩

end Results

/-! ### Classes of characters -/

section Classes

variable {p q : Char → Bool} {s t : List Char}

theorem madeOf_nil (p : Char → Bool) : MadeOf p [] := List.forall_mem_nil _

theorem madeOf_singleton {c : Char} (h : p c = true) : MadeOf p [c] :=
  List.forall_mem_singleton.2 h

theorem madeOf_takeWhile (p : Char → Bool) (s : List Char) : MadeOf p (s.takeWhile p) :=
  fun _ hc => List.mem_takeWhile_imp hc

theorem MadeOf.mono (h : MadeOf p s) (hpq : ∀ c, p c = true → q c = true) : MadeOf q s :=
  fun c hc => hpq c (h c hc)

theorem MadeOf.append (hs : MadeOf p s) (ht : MadeOf p t) : MadeOf p (s ++ t) :=
  List.forall_mem_append.2 ⟨hs, ht⟩

theorem MadeOf.stops (h : MadeOf q s) (hpq : ∀ c, q c = true → p c = false) (ht : Stops p t) :
    Stops p (s ++ t) := by
  cases s with
  | nil => exact ht
  | cons c s => exact stops_cons (hpq c (h c List.mem_cons_self))

/-- Whether a text is made of characters of a class and blanks. -/
def Spaced (p : Char → Bool) (s : List Char) : Prop := ∀ c ∈ s, p c = true ∨ isBlank c = true

theorem Spaced.beq (h : Spaced p s) {d : Char} (hp : p d = false) (hd : isBlank d = false) :
    ∀ c ∈ s, (c == d) = false :=
  fun c hc => (h c hc).elim (fun hpc => beq_eq_false hpc hp) fun hblank => beq_eq_false hblank hd

theorem Spaced.mono (h : Spaced p s) (hpq : ∀ c, p c = true → q c = true) : Spaced q s :=
  fun c hc => (h c hc).imp_left (hpq c)

theorem Spaced.append_cons {c : Char} (hs : Spaced p s) (hc : p c = true) (ht : Spaced p t) :
    Spaced p (s ++ c :: t) :=
  List.forall_mem_append.2 ⟨hs, List.forall_mem_cons.2 ⟨Or.inl hc, ht⟩⟩

theorem Around.spaced (h : Around isBlank s t) (hs : MadeOf p s) : Spaced p t := by
  cases h with
  | mk hbefore hafter =>
      intro c hc
      rcases List.mem_append.1 hc with hc | hc
      · exact Or.inr (hbefore c hc)
      · exact (List.mem_append.1 hc).imp (hs c) (hafter c)

end Classes

/-! ### Blanks -/

/-- A text is what is left of it when it is trimmed, with blanks around it. -/
theorem around_trimList (s : List Char) : Around isBlank (trimList s) s := by
  obtain ⟨before, after, hbefore, hafter, hs⟩ := exists_trimList s
  have h : Around isBlank (trimList s) (before ++ (trimList s ++ after)) := .mk hbefore hafter
  rwa [← hs] at h

theorem Around.trimList {core s : List Char} (h : Around isBlank core s) (hne : core ≠ [])
    (hcore : ∀ c ∈ core, isBlank c = false) : trimList s = core := by
  cases h with
  | mk hbefore hafter => exact trimList_append hbefore hafter hne hcore

/-- A sign that separates parts is not blank. -/
theorem isBlank_of_beq {d : Char} (hd : isBlank d = false) : ∀ c, (c == d) = true →
    isBlank c = false := by
  intro c hc
  rwa [eq_of_beq hc]

/-! ### Numbers -/

/-- A number of a text of digits fits if it is some 64-bit number. -/
theorem ofNat_valueOf_iff {base : Nat} {s : List Char} {n : UInt64} :
    valueOf base s < UInt64.size ∧ UInt64.ofNat (valueOf base s) = n ↔
      valueOf base s = n.toNat := by
  constructor
  · rintro ⟨hlt, rfl⟩
    exact (Nat.mod_eq_of_lt hlt).symm
  · intro h
    rw [h]
    exact ⟨n.toNat_lt, UInt64.ofNat_toNat⟩

/-- Digits are read if there are some, nothing else is there, and their number fits. -/
theorem readDigits_iff {base : Nat} {p : Char → Bool} {s : List Char} {n : UInt64}
    {none large : ArgumentFault} :
    (if s.isEmpty || !s.all p then .error none
      else if valueOf base s < UInt64.size then .ok (UInt64.ofNat (valueOf base s))
      else .error large : Except ArgumentFault UInt64) = .ok n ↔ DigitsText base p n s := by
  constructor
  · intro h
    split at h
    · cases h
    · rename_i hall
      rw [Bool.or_eq_true, not_or, Bool.not_eq_true, Bool.not_eq_true, Bool.not_eq_false',
        List.isEmpty_eq_false_iff, List.all_eq_true] at hall
      split at h
      · rename_i hlt
        exact ⟨hall.1, hall.2, ofNat_valueOf_iff.1 ⟨hlt, Except.ok.inj h⟩⟩
      · cases h
  · intro h
    obtain ⟨hlt, heq⟩ := ofNat_valueOf_iff.2 h.value
    have hall : (s.isEmpty || !s.all p) = false := by
      rw [List.isEmpty_eq_false_iff.2 h.nonempty, List.all_eq_true.2 h.digits]
      rfl
    rw [hall, if_neg Bool.false_ne_true, if_pos hlt, heq]

theorem readNumber_iff {s : List Char} {n : UInt64} :
    readNumber s = .ok n ↔ DigitsText 10 isDigit n s := by
  rw [← readDigits_iff, readNumber, decimalValue?]
  split
  · rename_i h
    split at h
    · rename_i hall
      rw [if_pos hall]
    · cases h
  · rename_i h
    split at h
    · cases h
    · rename_i hall
      cases h
      rw [if_neg hall]

theorem isBlank_of_isDigit {c : Char} (h : isDigit c = true) : isBlank c = false :=
  isBlank_of_isPlainChar (isPlainChar_of_isDigit h)

/-- **A number is read from its digits.** -/
theorem readNumber_trimList_iff {s : List Char} {n : UInt64} :
    readNumber (trimList s) = .ok n ↔ NumberText n s := by
  rw [readNumber_iff]
  constructor
  · exact fun h => .mk h (around_trimList s)
  · rintro ⟨h, hs⟩
    rwa [hs.trimList h.nonempty fun c hc => isBlank_of_isDigit (h.digits c hc)]

theorem NumberText.spaced {n : UInt64} {s : List Char} : NumberText n s → Spaced isDigit s
  | .mk h hs => hs.spaced h.digits

/-! ### Ranges -/

theorem readRange_trimList_iff {s : List Char} {r : NumberRange} :
    readRange (trimList s) = .ok r ↔ RangeText r s := by
  rw [readRange, splitFirst?_trimList (isBlank_of_beq rfl)]
  constructor
  · intro h
    cases hsplit : splitFirst? (· == '-') s with
    | none =>
        rw [hsplit] at h
        obtain ⟨n, hn, hr⟩ := bind_eq_ok_iff.1 h
        cases hr
        exact .single (readNumber_trimList_iff.1 hn)
    | some parts =>
        obtain ⟨a, b⟩ := parts
        rw [hsplit] at h
        obtain ⟨c, hc, -, rfl⟩ := splitFirst?_eq_some_iff.1 hsplit
        obtain ⟨min, hmin, h⟩ := bind_eq_ok_iff.1 h
        obtain ⟨max, hmax, h⟩ := bind_eq_ok_iff.1 h
        rw [trimList_trimStart, readNumber_trimList_iff] at hmin
        rw [trimList_trimEnd, readNumber_trimList_iff] at hmax
        dsimp only at h
        split at h
        · cases h
        · rename_i hle
          cases h
          rw [eq_of_beq hc]
          exact .between hmin hmax (UInt64.not_lt.1 hle)
  · intro h
    cases h with
    | @single n s h =>
        rw [splitFirst?_eq_none (h.spaced.beq rfl rfl), Option.map_none]
        dsimp only
        rw [readNumber_trimList_iff.2 h]
        rfl
    | @between r a b hmin hmax h =>
        rw [splitFirst?_append (p := (· == '-')) rfl (hmin.spaced.beq rfl rfl), Option.map_some]
        dsimp only
        rw [trimList_trimStart, trimList_trimEnd, readNumber_trimList_iff.2 hmin,
          readNumber_trimList_iff.2 hmax]
        exact if_neg (UInt64.not_lt.2 h)

theorem isRangeChar_of_isDigit {c : Char} (h : isDigit c = true) : isRangeChar c = true := by
  rw [isRangeChar, h, Bool.true_or]

theorem RangeText.spaced {r : NumberRange} {s : List Char} : RangeText r s → Spaced isRangeChar s
  | .single h => h.spaced.mono fun _ => isRangeChar_of_isDigit
  | .between hmin hmax _ =>
      (hmin.spaced.mono fun _ => isRangeChar_of_isDigit).append_cons rfl
        (hmax.spaced.mono fun _ => isRangeChar_of_isDigit)

/-! ### Lists -/

section Lists

variable {α : Type} {read : List Char → Except ArgumentFault α} {Item : α → List Char → Prop}

/-- A text may be trimmed before it is read part by part. -/
theorem mapM_splitAll_trimList (read : List Char → Except ArgumentFault α) (s : List Char) :
    ((splitAll (· == ',') (trimList s)).mapM fun part => read (trimList part)) =
      (splitAll (· == ',') s).mapM fun part => read (trimList part) := by
  have hmap (s : List Char) : ((splitAll (· == ',') s).mapM fun part => read (trimList part)) =
      ((splitAll (· == ',') s).map trimList).mapM read := List.mapM_map.symm
  rw [hmap, hmap, map_trimList_splitAll_trimList (isBlank_of_beq rfl)]

theorem mapM_splitAll_of_listText (hread : ∀ {s a}, Item a s → read (trimList s) = .ok a)
    (hcomma : ∀ {s a}, Item a s → ∀ c ∈ s, (c == ',') = false) {s : List Char} {as : List α}
    (h : ListText Item as s) :
    ((splitAll (· == ',') s).mapM fun part => read (trimList part)) = .ok as := by
  induction h with
  | one h =>
      rw [splitAll_eq_singleton (hcomma h), List.mapM_cons, hread h]
      rfl
  | more h _ ih =>
      rw [splitAll_append rfl (hcomma h), List.mapM_cons, hread h, ih]
      rfl

theorem listText_of_mapM_splitAll (hread : ∀ {s a}, read (trimList s) = .ok a → Item a s)
    (s : List Char) {as : List α}
    (h : ((splitAll (· == ',') s).mapM fun part => read (trimList part)) = .ok as) :
    ListText Item as s := by
  rw [splitAll_eq] at h
  cases hsplit : splitFirst? (· == ',') s with
  | none =>
      rw [hsplit, List.mapM_cons] at h
      obtain ⟨a, ha, h⟩ := bind_eq_ok_iff.1 h
      cases h
      exact .one (hread ha)
  | some parts =>
      obtain ⟨a, b⟩ := parts
      have := length_of_splitFirst? hsplit
      rw [hsplit, List.mapM_cons] at h
      obtain ⟨c, hc, -, rfl⟩ := splitFirst?_eq_some_iff.1 hsplit
      obtain ⟨x, hx, h⟩ := bind_eq_ok_iff.1 h
      obtain ⟨xs, hxs, h⟩ := bind_eq_ok_iff.1 h
      cases h
      rw [eq_of_beq hc]
      exact .more (hread hx) (listText_of_mapM_splitAll hread b hxs)
termination_by s.length

end Lists

theorem readRanges_trimList_iff {s : List Char} {rs : List NumberRange} :
    readRanges (trimList s) = .ok rs ↔ ListText RangeText rs s := by
  rw [readRanges, mapM_splitAll_trimList]
  exact ⟨listText_of_mapM_splitAll readRange_trimList_iff.1 s, mapM_splitAll_of_listText
    readRange_trimList_iff.2 fun h => h.spaced.beq rfl rfl⟩

/-! ### Sizes -/

theorem readDimension_iff {s : List Char} {n : UInt32} :
    readDimension s = .ok n ↔ NumberText n.toUInt64 s := by
  rw [readDimension, bind_eq_ok_iff]
  constructor
  · rintro ⟨m, hm, h⟩
    split at h
    · rename_i hlt
      cases h
      have heq : m.toUInt32.toUInt64 = m := by
        rw [← UInt64.toNat_inj, UInt32.toNat_toUInt64, UInt64.toNat_toUInt32]
        exact Nat.mod_eq_of_lt hlt
      rw [heq]
      exact readNumber_trimList_iff.1 hm
    · cases h
  · intro h
    refine ⟨_, readNumber_trimList_iff.2 h, ?_⟩
    have hlt : n.toUInt64.toNat < UInt32.size := by
      rw [UInt32.toNat_toUInt64]
      exact n.toNat_lt
    rw [if_pos hlt, UInt32.toUInt32_toUInt64]
    rfl

theorem readDimensions_iff {s : List Char} {d : Dimensions} :
    readDimensions s = .ok d ↔ DimensionsText d s := by
  rw [readDimensions]
  constructor
  · intro h
    split at h
    · cases h
    · rename_i a b hsplit
      obtain ⟨c, hc, -, rfl⟩ := splitFirst?_eq_some_iff.1 hsplit
      obtain ⟨width, hwidth, h⟩ := bind_eq_ok_iff.1 h
      obtain ⟨height, hheight, h⟩ := bind_eq_ok_iff.1 h
      cases h
      rw [eq_of_beq hc]
      exact .mk (readDimension_iff.1 hwidth) (readDimension_iff.1 hheight)
  · rintro ⟨hwidth, hheight⟩
    rw [splitFirst?_append (p := (· == 'x')) rfl (hwidth.spaced.beq rfl rfl)]
    dsimp only
    rw [readDimension_iff.2 hwidth, readDimension_iff.2 hheight]
    rfl

theorem readDimension_trimStart (s : List Char) :
    readDimension (trimStart s) = readDimension s := by
  rw [readDimension, readDimension, trimList_trimStart]

theorem readDimension_trimEnd (s : List Char) :
    readDimension (trimEnd s) = readDimension s := by
  rw [readDimension, readDimension, trimList_trimEnd]

/-- The blanks around dimensions are those around their numbers. -/
theorem readDimensions_trimList_iff {s : List Char} {d : Dimensions} :
    readDimensions (trimList s) = .ok d ↔ DimensionsText d s := by
  rw [← readDimensions_iff, readDimensions, readDimensions,
    splitFirst?_trimList (isBlank_of_beq rfl)]
  cases splitFirst? (· == 'x') s with
  | none => exact ⟨fun h => (by cases h), fun h => (by cases h)⟩
  | some parts =>
      rw [Option.map_some]
      dsimp only
      rw [readDimension_trimStart, readDimension_trimEnd]

theorem isDimensionChar_of_isDigit {c : Char} (h : isDigit c = true) :
    isDimensionChar c = true := by
  rw [isDimensionChar, h, Bool.true_or]

theorem DimensionsText.spaced {d : Dimensions} {s : List Char} :
    DimensionsText d s → Spaced isDimensionChar s
  | .mk hwidth hheight =>
      (hwidth.spaced.mono fun _ => isDimensionChar_of_isDigit).append_cons rfl
        (hheight.spaced.mono fun _ => isDimensionChar_of_isDigit)

theorem readSizeRange_trimList_iff {s : List Char} {r : SizeRange} :
    readSizeRange (trimList s) = .ok r ↔ SizeText r s := by
  rw [readSizeRange, splitFirst?_trimList (isBlank_of_beq rfl)]
  constructor
  · intro h
    cases hsplit : splitFirst? (· == '-') s with
    | none =>
        rw [hsplit] at h
        obtain ⟨d, hd, h⟩ := bind_eq_ok_iff.1 h
        cases h
        exact .single (readDimensions_trimList_iff.1 hd)
    | some parts =>
        obtain ⟨a, b⟩ := parts
        rw [hsplit] at h
        obtain ⟨c, hc, -, rfl⟩ := splitFirst?_eq_some_iff.1 hsplit
        obtain ⟨min, hmin, h⟩ := bind_eq_ok_iff.1 h
        obtain ⟨max, hmax, h⟩ := bind_eq_ok_iff.1 h
        rw [trimList_trimStart, readDimensions_trimList_iff] at hmin
        rw [trimList_trimEnd, readDimensions_trimList_iff] at hmax
        dsimp only at h
        split at h
        · cases h
        · rename_i hle
          cases h
          rw [Bool.or_eq_true, not_or, decide_eq_true_iff, decide_eq_true_iff] at hle
          rw [eq_of_beq hc]
          exact .between hmin hmax ⟨UInt32.not_lt.1 hle.1, UInt32.not_lt.1 hle.2⟩
  · intro h
    cases h with
    | @single d s h =>
        rw [splitFirst?_eq_none (h.spaced.beq rfl rfl), Option.map_none]
        dsimp only
        rw [readDimensions_trimList_iff.2 h]
        rfl
    | @between r a b hmin hmax h =>
        have hle : ¬ (decide (r.max.width < r.min.width) || decide (r.max.height < r.min.height)) =
            true := by
          rw [Bool.or_eq_true, not_or, decide_eq_true_iff, decide_eq_true_iff]
          exact ⟨UInt32.not_lt.2 h.1, UInt32.not_lt.2 h.2⟩
        rw [splitFirst?_append (p := (· == '-')) rfl (hmin.spaced.beq rfl rfl), Option.map_some]
        dsimp only
        rw [trimList_trimStart, trimList_trimEnd, readDimensions_trimList_iff.2 hmin,
          readDimensions_trimList_iff.2 hmax]
        exact if_neg hle

theorem isSizeChar_of_isDimensionChar {c : Char} (h : isDimensionChar c = true) :
    isSizeChar c = true := by
  rw [isSizeChar, h, Bool.true_or]

theorem SizeText.spaced {r : SizeRange} {s : List Char} : SizeText r s → Spaced isSizeChar s
  | .single h => h.spaced.mono fun _ => isSizeChar_of_isDimensionChar
  | .between hmin hmax _ =>
      (hmin.spaced.mono fun _ => isSizeChar_of_isDimensionChar).append_cons rfl
        (hmax.spaced.mono fun _ => isSizeChar_of_isDimensionChar)

/-! ### Image bounds -/

theorem readWeight_trimList_iff {s : List Char} {weight : Option NumberRange} :
    readWeight (trimList s) = .ok weight ↔ WeightText weight s := by
  rw [readWeight]
  constructor
  · intro h
    split at h
    · rename_i hempty
      cases h
      refine .none fun c hc => ?_
      by_contra hblank
      exact trimList_ne_nil hc (Bool.not_eq_true _ ▸ hblank) (List.isEmpty_iff.1 hempty)
    · obtain ⟨r, hr, rfl⟩ := map_eq_ok_iff.1 h
      exact .some (readRange_trimList_iff.1 hr)
  · intro h
    cases h with
    | none h => rw [trimList_eq_nil h]; rfl
    | @some r s h =>
        have hread := readRange_trimList_iff.2 h
        split
        · rename_i hempty
          rw [List.isEmpty_iff.1 hempty] at hread
          cases hread
        · rw [hread]
          rfl

theorem WeightText.spaced {weight : Option NumberRange} {s : List Char} :
    WeightText weight s → Spaced isRangeChar s
  | .none h => fun c hc => Or.inr (h c hc)
  | .some h => h.spaced

theorem ofSign?_eq_some_iff {c : Char} {cmp : Comparison} :
    Comparison.ofSign? c = some cmp ↔ c = cmp.sign := by
  constructor
  · intro h
    rw [Comparison.ofSign?.eq_def] at h
    split at h <;> cases h <;> rfl
  · rintro rfl
    exact ofSign?_sign cmp

/-- The last checks on an image bound are passed by the well-formed ones. -/
theorem checkImageBound_iff {cmp : Comparison} {weight : Option NumberRange}
    {size : Option SizeRange} {b : ImageBound} (hweight : ∀ r ∈ weight, r.IsOrdered)
    (hsize : ∀ r ∈ size, r.IsOrdered) :
    (do
      if weight.isNone && size.isNone then throw .boundExpected
      let isProper := (weight.any fun r => r.min != r.max) || (size.any fun r => r.min != r.max)
      if isProper && cmp != .equal then throw .rangeNeedsEqual
      return ⟨cmp, weight, size⟩ : Except ArgumentFault ImageBound) = .ok b ↔
      b = ⟨cmp, weight, size⟩ ∧ b.IsWellFormed := by
  constructor
  · intro h
    have hb := yields_imageBound cmp weight size hweight hsize b h
    dsimp only at h
    split at h
    · cases h
    · split at h
      · cases h
      · cases h
        exact ⟨rfl, hb⟩
  · rintro ⟨rfl, hb⟩
    have hbounds : ¬ (weight.isNone && size.isNone) = true := by
      rw [Bool.and_eq_true, Option.isNone_iff_eq_none, Option.isNone_iff_eq_none]
      exact fun h => hb.bounds.elim (fun hne => hne h.1) fun hne => hne h.2
    have hproper : ¬ (((weight.any fun r => r.min != r.max) || size.any fun r => r.min != r.max) &&
        cmp != .equal) = true := by
      rw [Bool.and_eq_true, bne_iff_ne, Bool.or_eq_true]
      rintro ⟨hp | hp, hne⟩
      · obtain ⟨r, hr, hrange⟩ := (Option.any_eq_true _ _).1 hp
        exact hne ((hb.weight r hr).2 (bne_iff_ne.1 hrange))
      · obtain ⟨r, hr, hrange⟩ := (Option.any_eq_true _ _).1 hp
        exact hne ((hb.size r hr).2 (bne_iff_ne.1 hrange))
    dsimp only
    rw [if_neg hbounds, if_neg hproper]
    rfl

theorem WeightText.isOrdered {weight : Option NumberRange} {s : List Char}
    (h : WeightText weight s) : ∀ r ∈ weight, r.IsOrdered :=
  yields_readWeight _ weight (readWeight_trimList_iff.2 h)

theorem SizeText.isOrdered {r : SizeRange} {s : List Char} (h : SizeText r s) : r.IsOrdered :=
  yields_readSizeRange _ r (readSizeRange_trimList_iff.2 h)

/-- What stands behind the sign is trimmed, and read up to `@` and from there on. -/
theorem readImageBound_sign {cmp : Comparison} {s : List Char} {b : ImageBound} :
    readImageBound (cmp.sign :: trimEnd s) = .ok b ↔
      b.cmp = cmp ∧ BoundsText b.weight b.size s ∧ b.IsWellFormed := by
  rw [readImageBound]
  simp only [ofSign?_sign]
  rw [trimList_trimEnd, splitFirst?_trimList (isBlank_of_beq rfl)]
  constructor
  · intro h
    cases hsplit : splitFirst? (· == '@') s with
    | none =>
        rw [hsplit] at h
        obtain ⟨weight, hweight, h⟩ := bind_eq_ok_iff.1 h
        rw [readWeight_trimList_iff] at hweight
        obtain ⟨rfl, hb⟩ := (checkImageBound_iff hweight.isOrdered (by rintro _ ⟨⟩)).1 h
        exact ⟨rfl, .weight hweight, hb⟩
    | some parts =>
        obtain ⟨w, d⟩ := parts
        rw [hsplit] at h
        obtain ⟨c, hc, -, rfl⟩ := splitFirst?_eq_some_iff.1 hsplit
        obtain ⟨weight, hweight, h⟩ := bind_eq_ok_iff.1 h
        obtain ⟨size, hsize, h⟩ := bind_eq_ok_iff.1 h
        rw [trimList_trimStart, readWeight_trimList_iff] at hweight
        rw [trimList_trimEnd, readSizeRange_trimList_iff] at hsize
        obtain ⟨rfl, hb⟩ := (checkImageBound_iff hweight.isOrdered
          (by rintro _ ⟨⟩; exact hsize.isOrdered)).1 h
        rw [eq_of_beq hc]
        exact ⟨rfl, .size hweight hsize, hb⟩
  · obtain ⟨cmp', weight, size⟩ := b
    rintro ⟨rfl, h, hb⟩
    cases h with
    | weight hweight =>
        rw [splitFirst?_eq_none (hweight.spaced.beq rfl rfl), Option.map_none]
        dsimp only
        rw [readWeight_trimList_iff.2 hweight]
        exact (checkImageBound_iff hweight.isOrdered (by rintro _ ⟨⟩)).2 ⟨rfl, hb⟩
    | size hweight hsize =>
        rw [splitFirst?_append (p := (· == '@')) rfl (hweight.spaced.beq rfl rfl), Option.map_some]
        dsimp only
        rw [trimList_trimStart, trimList_trimEnd, readWeight_trimList_iff.2 hweight,
          readSizeRange_trimList_iff.2 hsize]
        exact (checkImageBound_iff hweight.isOrdered
          (by rintro _ ⟨⟩; exact hsize.isOrdered)).2 ⟨rfl, hb⟩

theorem isBlank_sign (cmp : Comparison) : isBlank cmp.sign = false := by cases cmp <;> rfl

theorem readImageBound_trimList_iff {s : List Char} {b : ImageBound} :
    readImageBound (trimList s) = .ok b ↔ ImageText b s := by
  constructor
  · intro h
    have hs := around_trimList s
    cases htrim : trimList s with
    | nil => rw [htrim] at h; cases h
    | cons c rest =>
        rw [htrim] at h hs
        cases hcmp : Comparison.ofSign? c with
        | none =>
            rw [readImageBound] at h
            simp only [hcmp] at h
            cases h
        | some cmp =>
            cases ofSign?_eq_some_iff.1 hcmp
            cases hs with
            | @mk before after hbefore hafter =>
                have hrest : trimEnd (rest ++ after) = rest := by
                  rw [List.cons_append, trimList_append_cons (isBlank_sign cmp),
                    trimStart_eq_nil hbefore] at htrim
                  exact List.tail_eq_of_cons_eq htrim
                rw [← hrest, readImageBound_sign] at h
                obtain ⟨rfl, hbounds, hb⟩ := h
                exact .mk hbefore hbounds hb
  · rintro ⟨hbefore, hbounds, hb⟩
    rw [trimList_append_cons (isBlank_sign b.cmp), trimStart_eq_nil hbefore, List.nil_append]
    exact readImageBound_sign.2 ⟨rfl, hbounds, hb⟩

theorem isImageChar_of_isRangeChar {c : Char} (h : isRangeChar c = true) :
    isImageChar c = true := by
  rw [isRangeChar, Bool.or_eq_true] at h
  rcases h with h | h <;> simp only [isImageChar, isSizeChar, isDimensionChar, h, Bool.true_or,
    Bool.or_true]

theorem isImageChar_of_isSizeChar {c : Char} (h : isSizeChar c = true) : isImageChar c = true := by
  simp only [isImageChar, h, Bool.true_or]

theorem BoundsText.spaced {weight : Option NumberRange} {size : Option SizeRange} {s : List Char} :
    BoundsText weight size s → Spaced isImageChar s
  | .weight hweight => hweight.spaced.mono fun _ => isImageChar_of_isRangeChar
  | .size hweight hsize =>
      (hweight.spaced.mono fun _ => isImageChar_of_isRangeChar).append_cons rfl
        (hsize.spaced.mono fun _ => isImageChar_of_isSizeChar)

theorem ImageText.spaced {b : ImageBound} {s : List Char} : ImageText b s → Spaced isImageChar s
  | .mk hbefore h _ =>
      Spaced.append_cons (fun c hc => Or.inr (hbefore c hc)) (by cases b.cmp <;> rfl) h.spaced

/-! ### Checks -/

theorem readCheck_trimList_iff {s : List Char} {check : Check} :
    readCheck (trimList s) = .ok check ↔ CheckText check s := by
  rw [readCheck]
  constructor
  · intro h
    split at h
    · rename_i hword
      cases h
      rw [Check.ofWord?] at hword
      have heq := List.find?_some hword
      rw [CheckText, eq_of_beq heq, String.toList_ofList]
      exact around_trimList s
    · cases h
  · intro h
    have hne : check.word.toList ≠ [] := by cases check <;> decide
    rw [h.trimList hne fun c hc => isBlank_of_isPlainChar (isPlainChar_of_mem_word check c hc).1,
      String.ofList_toList, ofWord?_word_check]

theorem CheckText.spaced {check : Check} {s : List Char} (h : CheckText check s) :
    Spaced (fun c => isPlainChar c && !(c == ',')) s :=
  Around.spaced h fun c hc => by
    obtain ⟨hplain, hcomma⟩ := isPlainChar_of_mem_word check c hc
    rw [hplain, hcomma]
    rfl

theorem readChecks_trimList_iff {s : List Char} {cs : Checks} :
    readChecks (trimList s) = .ok cs ↔ ChecksText cs s := by
  rw [readChecks, mapM_splitAll_trimList, bind_eq_ok_iff]
  constructor
  · rintro ⟨checks, hchecks, h⟩
    cases h
    exact .mk (listText_of_mapM_splitAll readCheck_trimList_iff.1 s hchecks)
  · rintro ⟨h⟩
    exact ⟨_, mapM_splitAll_of_listText readCheck_trimList_iff.2
      (fun h => h.spaced.beq rfl rfl) h, rfl⟩

/-! ### Signatures -/

theorem readSignature_hexadecimal {x : Char} (hx : x = 'x' ∨ x = 'X') {digits : List Char}
    {n : UInt64} :
    readSignature ('0' :: x :: digits) = .ok n ↔ DigitsText 16 isHexDigit n digits := by
  have hmark : (x == 'x' || x == 'X') = true := by rcases hx with rfl | rfl <;> rfl
  rw [readSignature, if_pos hmark, readDigits_iff]

/-- What does not begin like a hexadecimal hash is read as a number. -/
theorem readSignature_decimal {s : List Char}
    (h : ∀ x digits, s = '0' :: x :: digits → x ≠ 'x' ∧ x ≠ 'X') :
    readSignature s = readNumber s := by
  rw [readSignature.eq_def]
  split
  · rename_i x digits
    obtain ⟨hx, hX⟩ := h x digits rfl
    rw [if_neg]
    rw [Bool.or_eq_true, beq_iff_eq, beq_iff_eq]
    exact fun h => h.elim hx hX
  · rfl

theorem readSignature_trimList_iff {s : List Char} {n : UInt64} :
    readSignature (trimList s) = .ok n ↔ SignatureText n s := by
  constructor
  · intro h
    have hs := around_trimList s
    by_cases hhex : ∃ x digits, trimList s = '0' :: x :: digits ∧ (x = 'x' ∨ x = 'X')
    · obtain ⟨x, digits, htrim, hx⟩ := hhex
      rw [htrim] at h hs
      exact .hexadecimal hx ((readSignature_hexadecimal hx).1 h) hs
    · rw [readSignature_decimal, readNumber_trimList_iff] at h
      · exact .decimal h
      · intro x digits heq
        exact ⟨fun hx => hhex ⟨x, digits, heq, Or.inl hx⟩,
          fun hx => hhex ⟨x, digits, heq, Or.inr hx⟩⟩
  · intro h
    cases h with
    | decimal h =>
        rw [← readNumber_trimList_iff] at h
        rwa [readSignature_decimal]
        -- Neither mark of a hexadecimal hash is a decimal digit.
        intro x digits heq
        have hdigit := (readNumber_iff.1 h).digits x (by rw [heq]; simp)
        constructor <;> rintro rfl <;> cases hdigit
    | @hexadecimal digits _ x hx h hs =>
        have hblank : ∀ c ∈ '0' :: x :: digits, isBlank c = false := by
          rw [List.forall_mem_cons, List.forall_mem_cons]
          refine ⟨rfl, by rcases hx with rfl | rfl <;> rfl, fun c hc => ?_⟩
          exact isBlank_of_isPlainChar (by simp only [isPlainChar, h.digits c hc, Bool.or_true,
            Bool.true_or])
        rw [hs.trimList (List.cons_ne_nil _ _) hblank]
        exact (readSignature_hexadecimal hx).2 h

/-- The characters of hashes. -/
def isSignatureChar (c : Char) : Bool := isPlainChar c || c == 'X'

theorem SignatureText.spaced {n : UInt64} {s : List Char} :
    SignatureText n s → Spaced isSignatureChar s
  | .decimal h => h.spaced.mono fun c hc => by
      rw [isSignatureChar, isPlainChar_of_isDigit hc, Bool.true_or]
  | .hexadecimal hx h hs => hs.spaced <| by
      rw [MadeOf, List.forall_mem_cons, List.forall_mem_cons]
      refine ⟨rfl, by rcases hx with rfl | rfl <;> rfl, fun c hc => ?_⟩
      simp only [isSignatureChar, isPlainChar, h.digits c hc, Bool.or_true, Bool.true_or]

/-! ### All shapes -/

/-- **An argument that is neither free text nor a pattern is read by the grammar.** -/
theorem parseArgument_trimList_iff {shape : ArgumentShape} (hshape : IsPlain shape)
    {s : List Char} {a : Argument} :
    parseArgument shape (trimList s) = .ok a ↔ a.shape = shape ∧ ArgumentText a s := by
  constructor
  · intro h
    refine ⟨(yields_parseArgument shape _ a h).1, ?_⟩
    rcases hshape with rfl | rfl | rfl | rfl <;> obtain ⟨x, hx, rfl⟩ := map_eq_ok_iff.1 h
    · exact .ranges (readRanges_trimList_iff.1 hx)
    · exact .image (readImageBound_trimList_iff.1 hx)
    · exact .checks (readChecks_trimList_iff.1 hx)
    · exact .signature (readSignature_trimList_iff.1 hx)
  · rintro ⟨rfl, h⟩
    cases h with
    | text | pattern => rcases hshape with h | h | h | h <;> cases h
    | ranges h => exact map_eq_ok_iff.2 ⟨_, readRanges_trimList_iff.2 h, rfl⟩
    | image h => exact map_eq_ok_iff.2 ⟨_, readImageBound_trimList_iff.2 h, rfl⟩
    | checks h => exact map_eq_ok_iff.2 ⟨_, readChecks_trimList_iff.2 h, rfl⟩
    | signature h => exact map_eq_ok_iff.2 ⟨_, readSignature_trimList_iff.2 h, rfl⟩

theorem beq_append_cons {s t : List Char} {c d : Char} (hs : ∀ e ∈ s, (e == d) = false)
    (hc : (c == d) = false) (ht : ∀ e ∈ t, (e == d) = false) :
    ∀ e ∈ s ++ c :: t, (e == d) = false :=
  List.forall_mem_append.2 ⟨hs, List.forall_mem_cons.2 ⟨hc, ht⟩⟩

theorem ListText.beq {α : Type} {Item : α → List Char → Prop} {d : Char} (hd : (',' == d) = false)
    (hitem : ∀ {a s}, Item a s → ∀ c ∈ s, (c == d) = false) {as : List α} {s : List Char}
    (h : ListText Item as s) : ∀ c ∈ s, (c == d) = false := by
  induction h with
  | one h => exact hitem h
  | more h _ ih => exact beq_append_cons (hitem h) hd ih

/-- Such an argument has no parenthesis. -/
theorem ArgumentText.beq_close {a : Argument} {s : List Char} (h : ArgumentText a s)
    (hshape : IsPlain a.shape) : ∀ c ∈ s, (c == ')') = false := by
  cases h with
  | text | pattern => rcases hshape with h | h | h | h <;> cases h
  | ranges h => exact h.beq rfl fun h => h.spaced.beq rfl rfl
  | image h => exact h.spaced.beq rfl rfl
  | checks h =>
      obtain ⟨h⟩ := h
      exact h.beq rfl fun h => h.spaced.beq rfl rfl
  | signature h => exact h.spaced.beq rfl rfl

end PostFilter.Document
