import PostFilter.Spell.Basic

/-!
# Order — spells are totally ordered

Every comparison that the order of spells is put together from is a total order in which only equal
things compare as equal: ranges, image bounds, sets of checks, patterns, arguments, scopes, kinds.

`Std.TransCmp` says that a comparison is oriented and transitive, `Std.LawfulEqCmp` that it tells
different things apart. Lexicographic comparison keeps both, so most instances are read off the
definition. Lists and options take one step by hand; for these the three comparisons of a triple
are considered together (`Fits`).

* `Spell.compare` is transitive and tells spells apart (the instances at the end).
-/

namespace PostFilter.Order
open Std

variable {α β : Type}

/-! ### Triples -/

/-- The comparison `ac` of the ends of a triple is the one that `ab` and `bc` force, if they force
one. -/
def Fits (ab bc ac : Ordering) : Prop :=
  (ab = .eq → ac = bc) ∧ (bc = .eq → ac = ab) ∧ (ab = bc → ac = ab)

/-- What is decided by a second comparison where the first leaves it open fits if both do. -/
theorem Fits.then {ab bc ac ab' bc' ac' : Ordering} (h : Fits ab bc ac)
    (h' : Fits ab' bc' ac') : Fits (ab.then ab') (bc.then bc') (ac.then ac') := by
  obtain ⟨h₁, h₂, h₃⟩ := h
  obtain ⟨h₁', h₂', h₃'⟩ := h'
  cases ab <;> cases bc <;> cases bc' <;> simp_all [Fits, Ordering.then]

theorem fits_compare (cmp : α → α → Ordering) [TransCmp cmp] (a b c : α) :
    Fits (cmp a b) (cmp b c) (cmp a c) := by
  refine ⟨fun h => TransCmp.congr_left h, fun h => (TransCmp.congr_right h).symm, fun h => ?_⟩
  cases hab : cmp a b with
  | lt => exact TransCmp.lt_trans hab (h ▸ hab)
  | eq => exact TransCmp.eq_trans hab (h ▸ hab)
  | gt => exact TransCmp.gt_trans hab (h ▸ hab)

/-- A comparison whose triples all fit is transitive. -/
theorem transCmp_of_fits {cmp : α → α → Ordering} (hs : ∀ a b, cmp a b = (cmp b a).swap)
    (hf : ∀ a b c, Fits (cmp a b) (cmp b c) (cmp a c)) : TransCmp cmp where
  eq_swap := hs _ _
  isLE_trans := by
    intro a b c hab hbc
    obtain ⟨h₁, h₂, h₃⟩ := hf a b c
    cases h : cmp a b with
    | lt =>
        cases h' : cmp b c with
        | lt => rw [h₃ (h.trans h'.symm), h]; rfl
        | eq => rw [h₂ h', h]; rfl
        | gt => rw [h'] at hbc; cases hbc
    | eq => rw [h₁ h]; exact hbc
    | gt => rw [h] at hab; cases hab

/-! ### Comparison by a key -/

/-- Comparison by a key is transitive. -/
theorem transCmp_key (f : β → α) (cmp : α → α → Ordering) [TransCmp cmp] :
    TransCmp fun a b => cmp (f a) (f b) where
  eq_swap := OrientedCmp.eq_swap
  isLE_trans := TransCmp.isLE_trans

/-- Comparison by an injective key tells things apart. -/
theorem lawfulEqCmp_key {f : β → α} (hf : ∀ {a b}, f a = f b → a = b) (cmp : α → α → Ordering)
    [LawfulEqCmp cmp] : LawfulEqCmp fun a b => cmp (f a) (f b) where
  compare_self := ReflCmp.compare_self
  eq_of_compare h := hf (LawfulEqCmp.eq_of_compare h)

/-! ### Lists and options -/

section
variable (cmp : α → α → Ordering)

theorem compareLists_swap [OrientedCmp cmp] :
    ∀ as bs : List α, compareLists cmp as bs = (compareLists cmp bs as).swap
  | [], [] | [], _ :: _ | _ :: _, [] => rfl
  | a :: as, b :: bs => by
      rw [compareLists, compareLists, Ordering.swap_then, ← compareLists_swap as bs,
        ← OrientedCmp.eq_swap]

theorem compareLists_fits [TransCmp cmp] : ∀ as bs cs : List α,
    Fits (compareLists cmp as bs) (compareLists cmp bs cs) (compareLists cmp as cs)
  | [], [], [] | [], [], _ :: _ | [], _ :: _, [] | [], _ :: _, _ :: _ => by
      simp [Fits, compareLists]
  | _ :: _, [], [] | _ :: _, [], _ :: _ | _ :: _, _ :: _, [] => by
      simp +contextual [Fits, compareLists]
  | a :: as, b :: bs, c :: cs => (fits_compare cmp a b c).then (compareLists_fits as bs cs)

theorem compareLists_eq [LawfulEqCmp cmp] :
    ∀ as bs : List α, compareLists cmp as bs = .eq ↔ as = bs
  | [], [] | [], _ :: _ | _ :: _, [] => by simp [compareLists]
  | a :: as, b :: bs => by
      rw [compareLists, Ordering.then_eq_eq, LawfulEqCmp.compare_eq_iff_eq, compareLists_eq as bs,
        List.cons.injEq]

instance [TransCmp cmp] : TransCmp (compareLists cmp) :=
  transCmp_of_fits (compareLists_swap cmp) (compareLists_fits cmp)

instance [LawfulEqCmp cmp] : LawfulEqCmp (compareLists cmp) where
  compare_self := (compareLists_eq cmp _ _).2 rfl
  eq_of_compare h := (compareLists_eq cmp _ _).1 h

instance [TransCmp cmp] : TransCmp (compareOptions cmp) := by
  refine transCmp_of_fits (fun a b => ?_) fun a b c => ?_
  · cases a <;> cases b <;> first | rfl | exact @OrientedCmp.eq_swap _ cmp _ _ _
  · cases a <;> cases b <;> cases c <;>
      first | exact fits_compare cmp _ _ _ | simp +contextual [Fits, compareOptions]

instance [LawfulEqCmp cmp] : LawfulEqCmp (compareOptions cmp) where
  compare_self {a} := by cases a <;> simp [compareOptions]
  eq_of_compare {a b} h := by cases a <;> cases b <;> simp_all [compareOptions]

end

/-! ### Arguments -/

instance : TransCmp NumberRange.compare :=
  inferInstanceAs (TransCmp (compareLex (compareOn NumberRange.min) (compareOn NumberRange.max)))

instance : LawfulEqCmp NumberRange.compare where
  compare_self := by simp [NumberRange.compare]
  eq_of_compare {a b} h := by
    obtain ⟨h₁, h₂⟩ := Ordering.then_eq_eq.1 h
    cases a; cases b
    simp_all

instance : TransCmp Dimensions.compare :=
  inferInstanceAs (TransCmp (compareLex (compareOn Dimensions.width) (compareOn Dimensions.height)))

instance : LawfulEqCmp Dimensions.compare where
  compare_self := by simp [Dimensions.compare]
  eq_of_compare {a b} h := by
    obtain ⟨h₁, h₂⟩ := Ordering.then_eq_eq.1 h
    cases a; cases b
    simp_all

instance : TransCmp SizeRange.compare :=
  have := transCmp_key SizeRange.min Dimensions.compare
  have := transCmp_key SizeRange.max Dimensions.compare
  inferInstanceAs (TransCmp (compareLex (fun a b : SizeRange => a.min.compare b.min)
    fun a b => a.max.compare b.max))

instance : LawfulEqCmp SizeRange.compare where
  compare_self := by simp [SizeRange.compare]
  eq_of_compare {a b} h := by
    obtain ⟨h₁, h₂⟩ := Ordering.then_eq_eq.1 h
    cases a; cases b
    simp_all

theorem rank_comparison {a b : Comparison} (h : a.rank = b.rank) : a = b := by
  cases a <;> cases b <;> first | rfl | cases h

instance : TransCmp ImageBound.compare :=
  have := transCmp_key ImageBound.weight (compareOptions NumberRange.compare)
  have := transCmp_key ImageBound.size (compareOptions SizeRange.compare)
  inferInstanceAs (TransCmp (compareLex (compareOn fun b : ImageBound => b.cmp.rank)
    (compareLex (fun a b => compareOptions NumberRange.compare a.weight b.weight)
      fun a b => compareOptions SizeRange.compare a.size b.size)))

instance : LawfulEqCmp ImageBound.compare where
  compare_self := by simp [ImageBound.compare]
  eq_of_compare {a b} h := by
    obtain ⟨h₁, h₂⟩ := Ordering.then_eq_eq.1 h
    obtain ⟨h₂, h₃⟩ := Ordering.then_eq_eq.1 h₂
    have := rank_comparison (LawfulEqCmp.eq_of_compare h₁)
    cases a; cases b
    simp_all

instance : TransCmp Checks.compare := inferInstanceAs (TransCmp (compareOn Checks.bits))

instance : LawfulEqCmp Checks.compare where
  compare_self := by simp [Checks.compare]
  eq_of_compare {a b} h := by
    have := @LawfulEqCmp.eq_of_compare _ Ord.compare _ _ _ h
    cases a; cases b
    simp_all

/-- The letters of flags are the flags. -/
theorem text_flags {f g : Pattern.Flags} (h : f.text = g.text) : f = g := by
  have h : f.letters = g.letters := String.ofList_injective h
  obtain ⟨i, m, s, u, x⟩ := f
  obtain ⟨i', m', s', u', x'⟩ := g
  revert h
  revert i m s u x i' m' s' u' x'
  decide

instance : TransCmp Pattern.compare :=
  inferInstanceAs (TransCmp (compareLex (compareOn Pattern.source)
    (compareOn fun p : Pattern => p.flags.text)))

instance : LawfulEqCmp Pattern.compare where
  compare_self := by simp [Pattern.compare]
  eq_of_compare h := by
    obtain ⟨h₁, h₂⟩ := Ordering.then_eq_eq.1 h
    exact Pattern.ext (LawfulEqCmp.eq_of_compare h₁)
      (text_flags (LawfulEqCmp.eq_of_compare h₂))

theorem argument_swap (a b : Argument) : a.compare b = (b.compare a).swap := by
  cases a <;> cases b
  case text.text => exact @OrientedCmp.eq_swap _ Ord.compare _ _ _
  case pattern.pattern => exact @OrientedCmp.eq_swap _ Pattern.compare _ _ _
  case ranges.ranges => exact @OrientedCmp.eq_swap _ (compareLists NumberRange.compare) _ _ _
  case image.image => exact @OrientedCmp.eq_swap _ ImageBound.compare _ _ _
  case checks.checks => exact @OrientedCmp.eq_swap _ Checks.compare _ _ _
  case signature.signature => exact @OrientedCmp.eq_swap _ Ord.compare _ _ _
  all_goals rfl

/-- Arguments of different shapes are told apart by rank alone. -/
theorem argument_fits (a b c : Argument) : Fits (a.compare b) (b.compare c) (a.compare c) := by
  cases a <;> cases b <;> cases c
  case text.text.text => exact fits_compare Ord.compare _ _ _
  case pattern.pattern.pattern => exact fits_compare Pattern.compare _ _ _
  case ranges.ranges.ranges => exact fits_compare (compareLists NumberRange.compare) _ _ _
  case image.image.image => exact fits_compare ImageBound.compare _ _ _
  case checks.checks.checks => exact fits_compare Checks.compare _ _ _
  case signature.signature.signature => exact fits_compare Ord.compare _ _ _
  all_goals simp +contextual [Fits, Argument.compare, Argument.rank, Nat.compare_eq_ite_lt]

instance : TransCmp Argument.compare := transCmp_of_fits argument_swap argument_fits

instance : LawfulEqCmp Argument.compare where
  compare_self {a} := by cases a <;> simp [Argument.compare]
  eq_of_compare {a b} h := by
    cases a <;> cases b <;>
      simp_all [Argument.compare, Argument.rank, Nat.compare_eq_ite_lt]

/-! ### Scopes, kinds and spells -/

instance : TransCmp ThreadScope.compare := by
  refine transCmp_of_fits (fun a b => ?_) fun a b c => ?_
  · cases a <;> cases b
    case thread.thread => exact @OrientedCmp.eq_swap _ Ord.compare _ _ _
    all_goals rfl
  · cases a <;> cases b <;> cases c
    case thread.thread.thread => exact fits_compare Ord.compare _ _ _
    all_goals simp +contextual [Fits, ThreadScope.compare]

instance : LawfulEqCmp ThreadScope.compare where
  compare_self {a} := by cases a <;> simp [ThreadScope.compare]
  eq_of_compare {a b} h := by cases a <;> cases b <;> simp_all [ThreadScope.compare]

instance : TransCmp Scope.compare :=
  have := transCmp_key Scope.thread ThreadScope.compare
  inferInstanceAs (TransCmp (compareLex (compareOn Scope.board)
    fun a b => a.thread.compare b.thread))

instance : LawfulEqCmp Scope.compare where
  compare_self := by simp [Scope.compare]
  eq_of_compare {a b} h := by
    obtain ⟨h₁, h₂⟩ := Ordering.then_eq_eq.1 h
    cases a; cases b
    simp_all

theorem rank_kind : ∀ a b : Kind, a.rank = b.rank → a = b := by
  intro a b h
  cases a <;> cases b <;> first | rfl | cases h

instance : TransCmp Kind.compare := inferInstanceAs (TransCmp (compareOn Kind.rank))

instance : LawfulEqCmp Kind.compare := lawfulEqCmp_key (rank_kind _ _) Ord.compare

instance : TransCmp Spell.compare :=
  have := transCmp_key Spell.kind Kind.compare
  have := transCmp_key Spell.argument (compareOptions Argument.compare)
  have := transCmp_key Spell.scope (compareOptions Scope.compare)
  inferInstanceAs (TransCmp (compareLex (fun a b : Spell => a.kind.compare b.kind)
    (compareLex (fun a b => compareOptions Argument.compare a.argument b.argument)
      (compareLex (fun a b => compareOptions Scope.compare a.scope b.scope)
        (compareOn Spell.negated)))))

instance : LawfulEqCmp Spell.compare where
  compare_self := by simp [Spell.compare]
  eq_of_compare {a b} h := by
    obtain ⟨h₁, h₂⟩ := Ordering.then_eq_eq.1 h
    obtain ⟨h₂, h₃⟩ := Ordering.then_eq_eq.1 h₂
    obtain ⟨h₃, h₄⟩ := Ordering.then_eq_eq.1 h₃
    cases a; cases b
    simp_all

end PostFilter.Order
