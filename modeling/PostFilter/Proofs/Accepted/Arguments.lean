import PostFilter.Document.WellFormed
import PostFilter.Proofs.Text.Parts

/-!
# Documents — arguments that are read are well-formed

What a reader hands back has its bounds in order, names some check, and is bounded at all. Each
reader is followed through its branches; `Yields` says what holds of its result if there is one.

* `yields_parseArgument` — whatever is read from between parentheses can be written again.
-/

namespace PostFilter.Document

open Text

/-! ### Results -/

section Yields

variable {ε α β : Type} {P : α → Prop} {Q : β → Prop}

/-- Whether a computation that succeeds has a result with the property. -/
def Yields (x : Except ε α) (P : α → Prop) : Prop := ∀ a, x = .ok a → P a

theorem yields_ok {a : α} (h : P a) : Yields (.ok a : Except ε α) P := by
  rintro _ ⟨⟩
  exact h

theorem yields_error (e : ε) : Yields (.error e) P := by rintro _ ⟨⟩

theorem yields_any (x : Except ε α) : Yields x fun _ => True := fun _ _ => trivial

theorem yields_bind {x : Except ε α} {f : α → Except ε β} (hx : Yields x P)
    (hf : ∀ a, P a → Yields (f a) Q) : Yields (x >>= f) Q := by
  intro b hb
  cases x with
  | error e => cases hb
  | ok a => exact hf a (hx a rfl) b hb

theorem yields_map {x : Except ε α} {f : α → β} (hx : Yields x P) (hf : ∀ a, P a → Q (f a)) :
    Yields (x.map f) Q := by
  cases x with
  | error e => exact yields_error e
  | ok a => exact yields_ok (hf a (hx a rfl))

/-- What every part yields holds of each result, and there are as many results as parts. -/
theorem yields_mapM {f : α → Except ε β} (h : ∀ a, Yields (f a) Q) : ∀ as : List α,
    Yields (as.mapM f) fun bs => bs.length = as.length ∧ ∀ b ∈ bs, Q b
  | [] => yields_ok ⟨rfl, by simp⟩
  | a :: as => by
      rw [List.mapM_cons]
      refine yields_bind (h a) fun b hb => yields_bind (yields_mapM h as) fun bs hbs => ?_
      exact yields_ok ⟨congrArg (· + 1) hbs.1, List.forall_mem_cons.2 ⟨hb, hbs.2⟩⟩

end Yields

theorem splitAll_ne_nil (p : Char → Bool) : ∀ s : List Char, splitAll p s ≠ []
  | [] => List.cons_ne_nil _ _
  | c :: s => by
      rw [splitAll]
      split
      · exact List.cons_ne_nil _ _
      · split <;> exact List.cons_ne_nil _ _

/-- There is always a part, so a list that is read part by part has a member. -/
theorem yields_mapM_splitAll {β : Type} {Q : β → Prop} {f : List Char → Except ArgumentFault β}
    (h : ∀ part, Yields (f part) Q) (p : Char → Bool) (s : List Char) :
    Yields ((splitAll p s).mapM f) fun bs => bs ≠ [] ∧ ∀ b ∈ bs, Q b := by
  intro bs hbs
  obtain ⟨hlength, hall⟩ := yields_mapM h _ bs hbs
  refine ⟨?_, hall⟩
  rintro rfl
  exact splitAll_ne_nil p s (List.length_eq_zero_iff.1 hlength.symm)

/-! ### Ranges -/

theorem yields_readRange (s : List Char) : Yields (readRange s) NumberRange.IsOrdered := by
  rw [readRange]
  split
  · exact yields_bind (yields_any _) fun n _ => yields_ok (UInt64.le_refl n)
  · refine yields_bind (yields_any _) fun min _ => yields_bind (yields_any _) fun max _ => ?_
    split
    · exact yields_error _
    · rename_i hle
      exact yields_ok (UInt64.not_lt.1 hle)

theorem yields_readRanges (s : List Char) :
    Yields (readRanges s) fun rs => rs ≠ [] ∧ ∀ r ∈ rs, r.IsOrdered :=
  yields_mapM_splitAll (fun part => yields_readRange (trimList part)) _ s

/-! ### Image bounds -/

theorem yields_readSizeRange (s : List Char) : Yields (readSizeRange s) SizeRange.IsOrdered := by
  rw [readSizeRange]
  split
  · exact yields_bind (yields_any _) fun d _ => yields_ok ⟨UInt32.le_refl _, UInt32.le_refl _⟩
  · refine yields_bind (yields_any _) fun min _ => yields_bind (yields_any _) fun max _ => ?_
    split
    · exact yields_error _
    · rename_i hle
      rw [Bool.or_eq_true, not_or, decide_eq_true_iff, decide_eq_true_iff] at hle
      exact yields_ok ⟨UInt32.not_lt.1 hle.1, UInt32.not_lt.1 hle.2⟩

theorem yields_readWeight (s : List Char) :
    Yields (readWeight s) fun weight => ∀ r ∈ weight, r.IsOrdered := by
  rw [readWeight]
  split
  · exact yields_ok (by rintro _ ⟨⟩)
  · refine yields_map (yields_readRange s) fun r hr => ?_
    rintro _ ⟨⟩
    exact hr

/-- The last checks on an image bound: it bounds something, and has proper ranges only where they
can be meant. -/
theorem yields_imageBound (cmp : Comparison) (weight : Option NumberRange)
    (size : Option SizeRange) (hweight : ∀ r ∈ weight, r.IsOrdered)
    (hsize : ∀ r ∈ size, r.IsOrdered) :
    Yields (do
      if weight.isNone && size.isNone then throw .boundExpected
      let isProper := (weight.any fun r => r.min != r.max) || (size.any fun r => r.min != r.max)
      if isProper && cmp != .equal then throw .rangeNeedsEqual
      return ⟨cmp, weight, size⟩ : Except ArgumentFault ImageBound) ImageBound.IsWellFormed := by
  dsimp only
  split
  · exact yields_error _
  · rename_i hbounds
    split
    · exact yields_error _
    · rename_i hproper
      have hequal (h : ((weight.any fun r => r.min != r.max) ||
          size.any fun r => r.min != r.max) = true) : cmp = .equal :=
        Decidable.byContradiction fun hne =>
          hproper (Bool.and_eq_true_iff.2 ⟨h, bne_iff_ne.2 hne⟩)
      refine yields_ok ⟨?_, fun r hr => ⟨hweight r hr, fun hne => hequal ?_⟩,
        fun r hr => ⟨hsize r hr, fun hne => hequal ?_⟩⟩
      · rw [Bool.and_eq_true, Decidable.not_and_iff_or_not, Option.isNone_iff_eq_none,
          Option.isNone_iff_eq_none] at hbounds
        exact hbounds
      · rw [Bool.or_eq_true]
        exact Or.inl ((Option.any_eq_true _ _).2 ⟨r, hr, bne_iff_ne.2 hne⟩)
      · rw [Bool.or_eq_true]
        exact Or.inr ((Option.any_eq_true _ _).2 ⟨r, hr, bne_iff_ne.2 hne⟩)

theorem yields_readImageBound (s : List Char) :
    Yields (readImageBound s) ImageBound.IsWellFormed := by
  rw [readImageBound.eq_def]
  split
  · exact yields_error _
  · split
    · exact yields_error _
    · rename_i cmp _
      dsimp only
      split
      · refine yields_bind (yields_readWeight _) fun w hw => ?_
        exact yields_imageBound cmp w none hw (by rintro _ ⟨⟩)
      · refine yields_bind (yields_readWeight _) fun w hw =>
          yields_bind (yields_readSizeRange _) fun d hd => ?_
        refine yields_imageBound cmp w (some d) hw ?_
        rintro _ ⟨⟩
        exact hd

/-! ### Checks -/

theorem isWellFormed_insert {cs : Checks} (h : cs.bits ≤ 127) (check : Check) :
    (cs.insert check).IsWellFormed := by
  have hbit : check.bit.toNat < 2 ^ 7 ∧ check.bit.toNat ≠ 0 := by cases check <;> decide
  have hbits : cs.bits.toNat < 2 ^ 7 := Nat.lt_succ_of_le (UInt8.le_iff_toNat_le.1 h)
  constructor
  · intro hzero
    have hor : cs.bits.toNat ||| check.bit.toNat = 0 := by
      rw [← UInt8.toNat_or]
      exact congrArg UInt8.toNat hzero
    exact hbit.2 (Nat.or_eq_zero_iff.1 hor).2
  · rw [UInt8.le_iff_toNat_le]
    change (cs.bits ||| check.bit).toNat ≤ 127
    rw [UInt8.toNat_or]
    exact Nat.le_of_lt_succ (Nat.or_lt_two_pow hbits hbit.1)

/-- Checks that are put into a set make it a set of some checks. -/
theorem isWellFormed_foldl_insert {checks : List Check} : ∀ {cs : Checks}, cs.bits ≤ 127 →
    cs.bits ≠ 0 ∨ checks ≠ [] → (checks.foldl Checks.insert cs).IsWellFormed := by
  induction checks with
  | nil => exact fun h hne => ⟨hne.resolve_right fun h => h rfl, h⟩
  | cons check checks ih =>
      intro cs h _
      have hcs := isWellFormed_insert h check
      exact ih hcs.2 (Or.inl hcs.1)

theorem yields_readChecks (s : List Char) : Yields (readChecks s) Checks.IsWellFormed := by
  rw [readChecks]
  refine yields_bind (yields_mapM_splitAll (fun part => yields_any _) _ s) fun checks hchecks => ?_
  exact yields_ok (isWellFormed_foldl_insert (by decide) (Or.inr hchecks.1))

/-! ### All shapes -/

/-- **What is read from between parentheses can be written.** -/
theorem yields_parseArgument (shape : ArgumentShape) (s : List Char) :
    Yields (parseArgument shape s) fun a => a.shape = shape ∧ a.IsWellFormed := by
  cases shape with
  | none | text | pattern => exact yields_error _
  | ranges => exact yields_map (yields_readRanges s) fun rs hrs => ⟨rfl, hrs⟩
  | image => exact yields_map (yields_readImageBound s) fun b hb => ⟨rfl, hb⟩
  | checks => exact yields_map (yields_readChecks s) fun cs hcs => ⟨rfl, hcs⟩
  | signature => exact yields_map (yields_any _) fun hash _ => ⟨rfl, trivial⟩

end PostFilter.Document
