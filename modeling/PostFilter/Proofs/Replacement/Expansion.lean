import PostFilter.Proofs.Replacement.Template
import PostFilter.Proofs.Text.Trimming
import PostFilter.Replacement.Meaning

/-!
# Replacement — a normalized template means what was written

The stored notation has rules of its own: an unbraced reference takes the longest identifier, and
what no capture answers to stands for nothing. Normalization brings a user's template into that
notation. Here the result is expanded by those rules, and gives at every match what the template
says part by part (`Replacement.expand_normalize`).

* `refers_of_reference?`, `reference?_of_refers` — the reference that is found behind a dollar is the
  one that is there.
* `says_unique` — a template says one thing.
-/

namespace PostFilter

open Text

/-! ### Names of captures -/

namespace Pattern

theorem isNameChar_eq_false_of_isDigit {c : Char} (h : isDigit c = true) :
    isNameChar true c = false := by
  have hdigits : ∀ i : Fin 10, isNameChar true (Char.ofNat (48 + i.1)) = false := by
    decide
  rw [isDigit, Bool.and_eq_true, decide_eq_true_eq, decide_eq_true_eq] at h
  have hlow : 48 ≤ c.toNat := h.1
  have hhigh : c.toNat ≤ 57 := h.2
  have hc := hdigits ⟨c.toNat - 48, by omega⟩
  rwa [Nat.add_sub_cancel' hlow, Char.ofNat_toNat] at hc

/-- A name of a capture is no number. -/
theorem IsName.readIndex?_eq_none {name : List Char} (h : IsName (String.ofList name)) :
    readIndex? name = none := by
  obtain ⟨hne, hchars⟩ := h
  rw [String.toList_ofList] at hne hchars
  match name, hne, hchars with
  | c :: rest, _, hchars =>
      have hplus : ((c :: rest).head? == some '+') = false := by
        rw [List.head?_cons, beq_eq_false_iff_ne]
        rintro ⟨⟩
        exact absurd hchars.1 (by decide)
      have hdigit : isDigit c = false := by
        cases hc : isDigit c with
        | false => rfl
        | true =>
            have htrue := hchars.1
            rw [isNameChar_eq_false_of_isDigit hc] at htrue
            cases htrue
      rw [readIndex?, hplus, if_neg Bool.false_ne_true, decimalValue?, List.all_cons, hdigit]
      rfl

end Pattern

namespace Template

/-- The index of the capture that a reference asks for. -/
def Reference.index? (groups : Array (Option String)) : Reference → Option Nat
  | .number n => some n
  | .name asked => indexOfName? groups asked

theorem index?_ofName_of_number {groups : Array (Option String)} {name : List Char} {n : Nat}
    (h : readIndex? name = some n) : (Reference.ofName name).index? groups = some n := by
  rw [Reference.ofName, h]
  rfl

theorem index?_ofName_of_name {groups : Array (Option String)} {name : List Char}
    (h : readIndex? name = none) :
    (Reference.ofName name).index? groups = indexOfName? groups name := by
  rw [Reference.ofName, h]
  rfl

end Template

namespace Replacement

open Template

variable {p : Pattern} {s name rest : List Char} {index : Nat} {parts parts' : List Part}

theorem hasName_iff : (captures p).hasName name = true ↔
    ∃ index, indexOfName? p.groups name = some index := by
  have hname : (captures p).hasName name =
      (p.groups.findIdx? (· == some (String.ofList name))).isSome := by
    rw [Array.findIdx?_isSome]
    exact Array.contains_eq_any_beq.trans (congrArg p.groups.any (funext fun _ => Bool.beq_comm))
  rw [hname, ← Option.isSome_iff_exists, indexOfName?, Option.isSome_map]

/-- What a name in braces or angle brackets is like: it has a capture, is no number, and does not
hold the mark that ends it. -/
theorem ends_of_indexOfName? (h : indexOfName? p.groups name = some index) :
    (captures p).hasName name = true ∧ name.isEmpty = false ∧ readIndex? name = none ∧
      (∀ c ∈ name, (c == '}') = false) ∧ ∀ c ∈ name, (c == '>') = false := by
  have hhas := hasName_iff.2 ⟨index, h⟩
  have hname := isName_of_hasName hhas
  have hangle := hname.beq_eq_false (c := '>') (by decide) (by decide)
  rw [String.toList_ofList] at hangle
  have hne := hname.1
  rw [String.toList_ofList] at hne
  exact ⟨hhas, List.isEmpty_eq_false_iff.2 hne, hname.readIndex?_eq_none, hasName_captures hhas,
    hangle⟩

/-! ### Numbers -/

section Numbers

variable {count : Nat} {digits : List Char}

/-- Whether digits spell the index of a capture, as a reader decides it. -/
def spells (count : Nat) (digits : List Char) : Bool :=
  (decimalValue? digits).any fun n => 1 ≤ n && n ≤ count

theorem spells_iff (hshort : digits.length ≤ 2) :
    spells count digits = true ↔ ∃ index, IsNumber count digits index := by
  rw [spells, Option.any_eq_true]
  constructor
  · rintro ⟨n, hn, hbounds⟩
    rw [Bool.and_eq_true, decide_eq_true_iff, decide_eq_true_iff] at hbounds
    exact ⟨n, hshort, hn, hbounds.1, hbounds.2⟩
  · rintro ⟨n, h⟩
    refine ⟨n, h.value, ?_⟩
    rw [Bool.and_eq_true, decide_eq_true_iff, decide_eq_true_iff]
    exact ⟨h.positive, h.within⟩

theorem spells_singleton {a : Char} :
    spells count [a] = true ↔ ∃ index, IsNumber count [a] index := spells_iff (Nat.le_succ 1)

theorem spells_pair {a b : Char} :
    spells count [a, b] = true ↔ ∃ index, IsNumber count [a, b] index := spells_iff (Nat.le_refl 2)

theorem numbered?_singleton (a : Char) :
    numbered? count [a] = if spells count [a] then some ([a], []) else none := rfl

theorem numbered?_cons_cons (a b : Char) (more : List Char) :
    numbered? count (a :: b :: more) =
      if spells count [a, b] then some ([a, b], more)
      else if spells count [a] then some ([a], b :: more) else none := rfl

/-- The number that is found is one, and no longer one is there. -/
theorem isNumber_of_numbered? (h : numbered? count s = some (digits, rest)) :
    s = digits ++ rest ∧ ∃ index, IsNumber count digits index ∧
      ∀ c ∈ rest.head?, ∀ longer, ¬ IsNumber count (digits ++ [c]) longer := by
  match s with
  | [] => cases h
  | [a] =>
      rw [numbered?_singleton] at h
      split at h
      · rename_i hone
        cases h
        obtain ⟨index, hindex⟩ := spells_singleton.1 hone
        exact ⟨rfl, index, hindex, fun c hc => by cases hc⟩
      · cases h
  | a :: b :: more =>
      rw [numbered?_cons_cons] at h
      split at h
      · rename_i htwo
        cases h
        obtain ⟨index, hindex⟩ := spells_pair.1 htwo
        exact ⟨rfl, index, hindex, fun c _ longer hlonger => absurd hlonger.short (by simp)⟩
      · rename_i htwo
        split at h
        · rename_i hone
          cases h
          obtain ⟨index, hindex⟩ := spells_singleton.1 hone
          refine ⟨rfl, index, hindex, fun c hc longer hlonger => htwo ?_⟩
          cases hc
          exact spells_pair.2 ⟨longer, hlonger⟩
        · cases h

/-- The longest number that is there is found. -/
theorem numbered?_of_isNumber {index : Nat} (h : IsNumber count digits index)
    (hlongest : ∀ c ∈ rest.head?, ∀ longer, ¬ IsNumber count (digits ++ [c]) longer) :
    numbered? count (digits ++ rest) = some (digits, rest) := by
  have hspells : spells count digits = true := (spells_iff h.short).2 ⟨index, h⟩
  match digits, rest with
  | [], _ => cases h.value
  | [a], [] => exact (numbered?_singleton a).trans (if_pos hspells)
  | [a], b :: more =>
      have htwo : ¬ spells count [a, b] = true := by
        rw [spells_pair]
        rintro ⟨longer, hlonger⟩
        exact hlongest b rfl longer hlonger
      rw [List.singleton_append, numbered?_cons_cons, if_neg htwo, if_pos hspells]
  | [a, b], rest => exact (numbered?_cons_cons a b rest).trans (if_pos hspells)
  | a :: b :: c :: more, _ => exact absurd h.short (by simp)

end Numbers

/-! ### References -/

theorem reference?_digit {caps : Captures} {c : Char} (h : isDigit c = true) :
    reference? caps (c :: rest) = numbered? caps.count (c :: rest) := by
  rw [reference?.eq_def]
  split
  · rename_i heq
    cases heq
  · rename_i heq
    cases heq
    cases h
  · rename_i heq
    cases heq
    cases h
  · rename_i heq
    cases heq
    cases h
  · rename_i heq
    cases heq
    rw [if_pos h]

/-- The reference that is found behind a dollar is there. -/
theorem refers_of_reference? (h : reference? (captures p) s = some (name, rest)) :
    ∃ index, Refers p.groups s index rest ∧
      (Reference.ofName name).index? p.groups = some index := by
  rw [reference?.eq_def] at h
  split at h
  · cases h
  · cases h
    exact ⟨0, .whole rest, index?_ofName_of_number rfl⟩
  · obtain ⟨hsplit, hanswer⟩ := Option.filter_eq_some_iff.1 h
    obtain ⟨c, hc, -, rfl⟩ := splitFirst?_eq_some_iff.1 hsplit
    obtain rfl := beq_iff_eq.1 hc
    dsimp only at hanswer
    split at hanswer
    · rename_i n hn
      exact ⟨n, .bracedNumber hn (of_decide_eq_true hanswer) rest, index?_ofName_of_number hn⟩
    · rename_i hn
      obtain ⟨index, hindex⟩ := hasName_iff.1 (Bool.and_eq_true _ _ ▸ hanswer).2
      exact ⟨index, .bracedName hindex rest, (index?_ofName_of_name hn).trans hindex⟩
  · obtain ⟨hsplit, hanswer⟩ := Option.filter_eq_some_iff.1 h
    obtain ⟨c, hc, -, rfl⟩ := splitFirst?_eq_some_iff.1 hsplit
    obtain rfl := beq_iff_eq.1 hc
    simp only [Bool.and_eq_true, Option.isNone_iff_eq_none] at hanswer
    obtain ⟨index, hindex⟩ := hasName_iff.1 hanswer.2
    exact ⟨index, .name hindex rest, (index?_ofName_of_name hanswer.1.1).trans hindex⟩
  · split at h
    · obtain ⟨hs, index, hindex, hlongest⟩ := isNumber_of_numbered? h
      rw [hs]
      exact ⟨index, .number hindex hlongest,
        index?_ofName_of_number (readIndex?_of_digits hindex.short hindex.value)⟩
    · cases h

/-- A number in braces holds no brace. -/
theorem beq_brace_of_readIndex? {digits : List Char} (h : readIndex? digits = some index) :
    ∀ c ∈ digits, (c == '}') = false := by
  obtain ⟨hvalue, -⟩ := Option.filter_eq_some_iff.1 h
  have hall := (isDigit_of_decimalValue? hvalue).1
  -- Only the sign at the front is no digit.
  have hmem : ∀ c ∈ digits, c = '+' ∨ isDigit c = true := by
    intro c hc
    split at hall
    · rename_i hplus
      match digits, hplus, hc with
      | d :: rest, hplus, hc =>
          rcases List.mem_cons.1 hc with rfl | hc
          · exact Or.inl (Option.some.inj (beq_iff_eq.1 hplus))
          · exact Or.inr (hall c hc)
    · exact Or.inr (hall c hc)
  intro c hc
  refine beq_eq_false_iff_ne.2 ?_
  rintro rfl
  rcases hmem _ hc with heq | hdigit
  · cases heq
  · cases hdigit

/-- The reference that is there behind a dollar is found. -/
theorem reference?_of_refers (h : Refers p.groups s index rest) :
    ∃ name, reference? (captures p) s = some (name, rest) ∧
      (Reference.ofName name).index? p.groups = some index := by
  cases h with
  | whole => exact ⟨_, rfl, index?_ofName_of_number rfl⟩
  | @number digits _ _ h hlongest =>
      refine ⟨digits, ?_, index?_ofName_of_number (readIndex?_of_digits h.short h.value)⟩
      have hfound := numbered?_of_isNumber h hlongest
      match digits, h.value with
      | c :: more, hvalue =>
          have hc := (isDigit_of_decimalValue? hvalue).1 c List.mem_cons_self
          exact (reference?_digit hc).trans hfound
  | @bracedNumber digits _ h hwithin =>
      have hanswer : answers (captures p) digits = true := by
        rw [answers, h]
        exact decide_eq_true hwithin
      exact ⟨digits, reference?_brace hanswer (beq_brace_of_readIndex? h) rest,
        index?_ofName_of_number h⟩
  | @bracedName name _ h =>
      obtain ⟨hhas, hne, hnumber, hbrace, -⟩ := ends_of_indexOfName? h
      have hanswer : answers (captures p) name = true := by
        rw [answers, hnumber, hne, hhas]
        rfl
      exact ⟨name, reference?_brace hanswer hbrace rest, (index?_ofName_of_name hnumber).trans h⟩
  | @name name _ h =>
      obtain ⟨hhas, hne, hnumber, -, hangle⟩ := ends_of_indexOfName? h
      refine ⟨name, ?_, (index?_ofName_of_name hnumber).trans h⟩
      rw [reference?, splitFirst?_append rfl hangle]
      refine Option.filter_some_pos ?_
      dsimp only
      rw [hnumber, hne, hhas]
      rfl

/-! ### Templates -/

/-- Behind a dollar, there is one reference at most. -/
theorem refers_unique {index' : Nat} {rest' : List Char} (h : Refers p.groups s index rest)
    (h' : Refers p.groups s index' rest') : index' = index ∧ rest' = rest := by
  obtain ⟨name, hname, hindex⟩ := reference?_of_refers h
  obtain ⟨name', hname', hindex'⟩ := reference?_of_refers h'
  rw [hname] at hname'
  cases hname'
  rw [hindex] at hindex'
  cases hindex'
  exact ⟨rfl, rfl⟩

/-- No reference begins with a dollar. -/
theorem not_refers_dollar : ¬ Refers p.groups ('$' :: s) index rest := by
  intro h
  obtain ⟨name, hname, -⟩ := reference?_of_refers h
  cases hname

/-- **A template says one thing.** -/
theorem says_unique (h : Says p.groups s parts) (h' : Says p.groups s parts') :
    parts' = parts := by
  induction h generalizing parts' with
  | nil =>
      cases h'
      rfl
  | char hc _ ih =>
      cases h' with
      | char _ h' => rw [ih h']
      | dollars _ => exact absurd rfl hc
      | capture _ _ => exact absurd rfl hc
      | dollar _ _ _ => exact absurd rfl hc
  | dollars _ ih =>
      cases h' with
      | char hc _ => exact absurd rfl hc
      | dollars h' => rw [ih h']
      | capture href _ => exact absurd href not_refers_dollar
      | dollar hdollar _ _ => exact absurd rfl hdollar
  | capture href _ ih =>
      cases h' with
      | char hc _ => exact absurd rfl hc
      | dollars _ => exact absurd href not_refers_dollar
      | capture href' h' =>
          obtain ⟨rfl, rfl⟩ := refers_unique href href'
          rw [ih h']
      | dollar _ hnone _ => exact absurd href (hnone _ _)
  | dollar hdollar hnone _ ih =>
      cases h' with
      | char hc _ => exact absurd rfl hc
      | dollars _ => exact absurd rfl hdollar
      | capture href _ => exact absurd href (hnone _ _)
      | dollar _ _ h' => rw [ih h']

/-! ### Expansion -/

section Expand

variable {value : Reference → List Char}

theorem expand_plain {c : Char} (hc : (c != '$') = true) :
    expand value (c :: s) = c :: expand value s := by
  rw [expand.eq_def]
  simp only [hc, if_true]

theorem expand_dollars : expand value ('$' :: '$' :: s) = '$' :: expand value s := by
  rw [expand.eq_def]
  simp only [bne_self_eq_false, Bool.false_eq_true, if_false, List.head?_cons, beq_self_eq_true,
    if_true, List.drop_one, List.tail_cons]

theorem expand_braced (hname : ∀ c ∈ name, (c == '}') = false) :
    expand value ('$' :: '{' :: (name ++ '}' :: rest)) =
      value (.ofName name) ++ expand value rest := by
  have hstored : storedReference? ('{' :: (name ++ '}' :: rest)) = some (.ofName name, rest) := by
    rw [storedReference?, splitFirst?_append rfl hname]
    rfl
  have hbrace : (('{' :: (name ++ '}' :: rest)).head? == some '$') = false := rfl
  rw [expand.eq_def]
  simp only [bne_self_eq_false, Bool.false_eq_true, if_false, hbrace]
  split
  · rename_i hsome
    rw [hstored] at hsome
    cases hsome
    rfl
  · rename_i hnone
    rw [hstored] at hnone
    cases hnone

end Expand

/-- A reference stands for the capture that it asks for, or for nothing. -/
theorem referenceValue_eq (groups : Array (Option String)) (text : List Char)
    (slots : Pattern.Slots) (r : Reference) : referenceValue groups text slots r =
      ((r.index? groups).map (captured text slots)).getD [] := by
  cases r with
  | number n => rfl
  | name asked =>
      rw [referenceValue, Reference.index?, indexOfName?]
      cases groups.findIdx? (· == some (String.ofList asked)) <;> rfl

/-- What a template says is what its normalized form expands to. -/
theorem says_expand (p : Pattern) (s : List Char) : ∃ parts, Says p.groups s parts ∧
    ∀ (text : List Char) (slots : Pattern.Slots),
      expand (referenceValue p.groups text slots) (Template.normalize (captures p) s) =
        parts.flatMap (Part.text (captured text slots)) := by
  fun_induction Template.normalize (captures p) s with
  | case1 => exact ⟨[], .nil, fun text slots => by rw [expand]; rfl⟩
  | case2 c rest hc ih =>
      obtain ⟨parts, hsays, hexpand⟩ := ih
      refine ⟨.char c :: parts, .char (bne_iff_ne.1 hc) hsays, fun text slots => ?_⟩
      rw [expand_plain hc, hexpand, List.flatMap_cons]
      rfl
  | case3 c rest hc name after h hle ih =>
      obtain ⟨parts, hsays, hexpand⟩ := ih
      obtain rfl : c = '$' := by simpa using hc
      obtain ⟨index, hrefers, hindex⟩ := refers_of_reference? h
      obtain ⟨-, hname⟩ := answers_of_reference? (fun _ => hasName_captures) h
      refine ⟨.capture index :: parts, .capture hrefers hsays, fun text slots => ?_⟩
      rw [expand_braced hname, hexpand, referenceValue_eq, hindex, List.flatMap_cons]
      rfl
  | case4 c rest hc h ih =>
      rw [dite_eq_ite] at ih
      obtain ⟨parts, hsays, hexpand⟩ := ih
      obtain rfl : c = '$' := by simpa using hc
      have hnone : ∀ index after, ¬ Refers p.groups rest index after := by
        intro index after hrefers
        obtain ⟨name, hname, -⟩ := reference?_of_refers hrefers
        rw [h] at hname
        cases hname
      refine ⟨.char '$' :: parts, ?_, fun text slots => ?_⟩
      · by_cases hdollar : rest.head? = some '$'
        · obtain ⟨more, rfl⟩ := List.head?_eq_some_iff.1 hdollar
          exact .dollars hsays
        · rw [if_neg (mt beq_iff_eq.1 hdollar)] at hsays
          exact .dollar hdollar hnone hsays
      · rw [expand_dollars, hexpand, List.flatMap_cons]
        rfl

/-- **A normalized template means what was written.** A template says one thing for the captures of a
pattern, and that is what the rules of the stored notation make of its normalized form at every
match. -/
theorem expand_normalize (p : Pattern) (template : String) :
    ∃ parts, Says p.groups template.toList parts ∧
      (∀ parts', Says p.groups template.toList parts' → parts' = parts) ∧
      ∀ (text : List Char) (slots : Pattern.Slots),
        expand (referenceValue p.groups text slots) (normalize p template).toList =
          parts.flatMap (Part.text (captured text slots)) := by
  obtain ⟨parts, hsays, hexpand⟩ := says_expand p template.toList
  refine ⟨parts, hsays, fun parts' hsays' => says_unique hsays hsays', fun text slots => ?_⟩
  rw [normalize, String.toList_ofList]
  exact hexpand text slots

/-- The template `$12$<n>$5$$&` for a pattern with two captures, the first named `n`. -/
theorem expand_normalize_of_digits :
    ∃ p : Pattern, p.source = "(?P<n>a)(b)" ∧
      ∀ (text : List Char) (slots : Pattern.Slots),
        expand (referenceValue p.groups text slots) (normalize p "$12$<n>$5$$&").toList =
          captured text slots 1 ++ '2' :: (captured text slots 1 ++ ['$', '5', '$', '&']) := by
  obtain ⟨p, hsource, -, hgroups⟩ :=
    Pattern.exists_of_groups "(?P<n>a)(b)" #[some "n", none] (by decide +kernel)
  obtain ⟨parts, -, hunique, hexpand⟩ := expand_normalize p "$12$<n>$5$$&"
  have hone : IsNumber p.groups.size ['1'] 1 := by
    rw [hgroups]
    exact ⟨by decide, rfl, by decide, by decide⟩
  have htwelve : ∀ longer, ¬ IsNumber p.groups.size ['1', '2'] longer := by
    intro longer h
    rw [hgroups] at h
    cases h.value
    exact absurd h.within (by decide)
  have hname : indexOfName? p.groups ['n'] = some 1 := by
    rw [hgroups]
    decide +kernel
  have hfive : ∀ index rest, ¬ Refers p.groups ['5', '$', '$', '&'] index rest := by
    intro index rest h
    obtain ⟨name, hfound, -⟩ := reference?_of_refers h
    rw [captures, hgroups] at hfound
    cases hfound
  have hnumber : Refers p.groups (['1'] ++ "2$<n>$5$$&".toList) 1 "2$<n>$5$$&".toList :=
    .number hone (by rintro _ ⟨⟩; exact htwelve)
  have hsays : Says p.groups "$12$<n>$5$$&".toList [.capture 1, .char '2', .capture 1, .char '$',
      .char '5', .char '$', .char '&'] :=
    .capture hnumber (.char (by decide) (.capture (.name hname _) (.dollar (by decide) hfive
      (.char (by decide) (.dollars (.char (by decide) .nil))))))
  refine ⟨p, hsource, fun text slots => ?_⟩
  rw [hexpand, ← hunique _ hsays]
  rfl

end Replacement

end PostFilter
