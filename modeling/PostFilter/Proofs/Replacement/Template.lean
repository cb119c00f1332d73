import PostFilter.Proofs.Pattern.Names
import PostFilter.Proofs.Text.Parts
import PostFilter.Replacement.Basic

/-!
# Replacement — normalized templates

A template in the stored notation is its own normal form. Its references are in braces, where a name
can end at the brace behind it only: no reference holds a closing brace, since the captures of a
pattern are named without one (`hasName_captures`). Its other dollars are doubled, and a doubled
dollar is taken as one.
-/

namespace PostFilter.Template

open Text

/-- Whether a pattern has the capture that a name in braces asks for. -/
def answers (caps : Captures) (name : List Char) : Bool :=
  match readIndex? name with
  | some n => n ≤ caps.count
  | none => !name.isEmpty && caps.hasName name

theorem reference?_brace {caps : Captures} {name : List Char} (hanswer : answers caps name = true)
    (hname : ∀ c ∈ name, (c == '}') = false) (rest : List Char) :
    reference? caps ('{' :: (name ++ '}' :: rest)) = some (name, rest) := by
  rw [reference?, splitFirst?_append rfl hname]
  exact Option.filter_some_pos hanswer

theorem splitFirst?_parts {p : Char → Bool} : ∀ {s a b : List Char},
    splitFirst? p s = some (a, b) → ∀ c ∈ a, p c = false
  | c :: s, a, b, h => by
      rw [splitFirst?] at h
      split at h
      · cases h
        exact List.forall_mem_nil _
      · rename_i hc
        obtain ⟨⟨a', b'⟩, hsplit, he⟩ := Option.map_eq_some_iff.1 h
        cases he
        exact List.forall_mem_cons.2 ⟨Bool.not_eq_true _ ▸ hc, splitFirst?_parts hsplit⟩

theorem digitValue_le {c : Char} (h : isDigit c = true) : digitValue c ≤ 9 := by
  rw [isDigit, Bool.and_eq_true, decide_eq_true_eq, decide_eq_true_eq] at h
  have hle : c.toNat ≤ 57 := h.2
  rw [digitValue, if_pos h.2]
  omega

theorem isDigit_of_decimalValue? {digits : List Char} {n : Nat}
    (h : decimalValue? digits = some n) :
    (∀ c ∈ digits, isDigit c = true) ∧ valueOf 10 digits = n := by
  rw [decimalValue?] at h
  split at h
  · cases h
  · rename_i hdigits
    rw [Bool.or_eq_true, not_or, Bool.not_eq_true', Bool.not_eq_false] at hdigits
    exact ⟨List.all_eq_true.1 hdigits.2, Option.some.inj h⟩

/-- One or two digits spell an index as they spell a number. -/
theorem readIndex?_of_digits {digits : List Char} {n : Nat} (hlength : digits.length ≤ 2)
    (h : decimalValue? digits = some n) : readIndex? digits = some n := by
  obtain ⟨hall, rfl⟩ := isDigit_of_decimalValue? h
  have hbound : valueOf 10 digits < UInt64.size := by
    match digits, hlength, hall with
    | [], _, _ => decide
    | [a], _, hall =>
        have ha := digitValue_le (hall a (by simp))
        change 0 * 10 + digitValue a < 18446744073709551616
        omega
    | [a, b], _, hall =>
        have ha := digitValue_le (hall a (by simp))
        have hb := digitValue_le (hall b (by simp))
        change (0 * 10 + digitValue a) * 10 + digitValue b < 18446744073709551616
        omega
  have hsign : (digits.head? == some '+') = false := by
    rw [beq_eq_false_iff_ne]
    intro hplus
    have hdigit := hall '+' (List.mem_of_mem_head? hplus)
    cases hdigit
  rw [readIndex?, hsign]
  exact (congrArg _ h).trans (Option.filter_some_pos (decide_eq_true hbound))

/-- Digits that spell a capture ask for one, and hold no brace. -/
theorem answers_digits {caps : Captures} {digits : List Char} (hlength : digits.length ≤ 2)
    (h : ((decimalValue? digits).any fun n => 1 ≤ n && n ≤ caps.count) = true) :
    answers caps digits = true ∧ ∀ c ∈ digits, (c == '}') = false := by
  obtain ⟨n, hn, hcount⟩ := (Option.any_eq_true _ _).1 h
  rw [Bool.and_eq_true] at hcount
  refine ⟨?_, fun c hc => ?_⟩
  · rw [answers, readIndex?_of_digits hlength hn]
    exact hcount.2
  · have hdigit := (isDigit_of_decimalValue? hn).1 c hc
    exact beq_eq_false_iff_ne.2 fun he => by rw [he] at hdigit; cases hdigit

/-- The digits of a numbered reference spell a capture. -/
theorem answers_numbered {caps : Captures} {s name rest : List Char}
    (h : numbered? caps.count s = some (name, rest)) :
    answers caps name = true ∧ ∀ c ∈ name, (c == '}') = false := by
  simp only [numbered?] at h
  split at h
  · rename_i hvalid
    cases h
    exact answers_digits (List.length_take_le 2 s) (Bool.and_eq_true _ _ ▸ hvalid).2
  · split at h
    · rename_i hvalid
      cases h
      exact answers_digits (Nat.le_succ_of_le (List.length_take_le 1 s)) hvalid
    · cases h

/-- What a reference asks for can be asked for in braces. -/
theorem answers_of_reference? {caps : Captures}
    (hnames : ∀ name, caps.hasName name = true → ∀ c ∈ name, (c == '}') = false)
    {s name rest : List Char} (h : reference? caps s = some (name, rest)) :
    answers caps name = true ∧ ∀ c ∈ name, (c == '}') = false := by
  rw [reference?.eq_def] at h
  split at h
  · cases h
  · cases h
    exact ⟨rfl, by simp⟩
  · obtain ⟨hsplit, hanswer⟩ := Option.filter_eq_some_iff.1 h
    exact ⟨hanswer, splitFirst?_parts hsplit⟩
  · obtain ⟨-, hanswer⟩ := Option.filter_eq_some_iff.1 h
    simp only [Bool.and_eq_true, Option.isNone_iff_eq_none] at hanswer
    obtain ⟨⟨hindex, hne⟩, hname⟩ := hanswer
    refine ⟨?_, hnames name hname⟩
    rw [answers, hindex, hne, hname]
    rfl
  · split at h
    · exact answers_numbered h
    · cases h

section Normalize

variable {caps : Captures} {rest name after : List Char}

theorem normalize_plain {c : Char} (hc : (c != '$') = true) :
    normalize caps (c :: rest) = c :: normalize caps rest := by
  rw [normalize.eq_def]
  simp only [hc, if_true]

theorem normalize_reference (h : reference? caps rest = some (name, after)) :
    normalize caps ('$' :: rest) = '$' :: '{' :: (name ++ '}' :: normalize caps after) := by
  rw [normalize.eq_def]
  simp only [bne_self_eq_false, Bool.false_eq_true, if_false]
  split
  · rename_i hsome
    rw [h] at hsome
    cases hsome
    rfl
  · rename_i hnone
    rw [h] at hnone
    cases hnone

theorem normalize_dollar (h : reference? caps rest = none) :
    normalize caps ('$' :: rest) =
      '$' :: '$' :: normalize caps (if rest.head? == some '$' then rest.drop 1 else rest) := by
  rw [normalize.eq_def]
  simp only [bne_self_eq_false, Bool.false_eq_true, if_false]
  split
  · rename_i hsome
    rw [h] at hsome
    cases hsome
  · rfl

/-- **A normalized template is its own normal form.** -/
theorem normalize_normalize
    (hnames : ∀ name, caps.hasName name = true → ∀ c ∈ name, (c == '}') = false)
    (s : List Char) : normalize caps (normalize caps s) = normalize caps s := by
  fun_induction normalize caps s with
  | case1 => rw [normalize]
  | case2 c rest hc ih => rw [normalize_plain hc, ih]
  | case3 c rest hc name after h hle ih =>
      obtain ⟨hanswer, hname⟩ := answers_of_reference? hnames h
      rw [normalize_reference (reference?_brace hanswer hname _), ih]
  | case4 c rest hc h ih =>
      rw [dite_eq_ite] at ih
      have hdollar : reference? caps ('$' :: normalize caps
          (if rest.head? == some '$' then rest.drop 1 else rest)) = none := rfl
      rw [normalize_dollar hdollar, List.head?_cons, beq_self_eq_true, if_pos rfl,
        List.drop_one, List.tail_cons, ih]

end Normalize

end PostFilter.Template

namespace PostFilter.Replacement

/-- The captures of a pattern have proper names. -/
theorem isName_of_hasName {p : Pattern} {name : List Char} (h : (captures p).hasName name = true) :
    Pattern.IsName (String.ofList name) := Pattern.isName_of_mem_groups h

/-- The captures of a pattern are named without a brace. -/
theorem hasName_captures {p : Pattern} {name : List Char} (h : (captures p).hasName name = true) :
    ∀ c ∈ name, (c == '}') = false := by
  have hname := (isName_of_hasName h).beq_eq_false (c := '}') (by decide) (by decide)
  rwa [String.toList_ofList] at hname

/-- **Normalizing a template once more changes nothing.** -/
theorem normalize_normalize (p : Pattern) (template : String) :
    normalize p (normalize p template) = normalize p template := by
  rw [normalize, normalize, String.toList_ofList,
    Template.normalize_normalize (fun _ => hasName_captures)]

end PostFilter.Replacement
