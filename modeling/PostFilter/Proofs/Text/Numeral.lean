import Mathlib.Algebra.Group.Nat.Defs
import PostFilter.Text.Numeral

/-!
# Text — numerals are read as they are written

The digits of a number are digits (`isDigit_of_mem_decimalDigits`, `isHexDigit_of_mem_hexDigits`)
and spell the number (`valueOf_decimalDigits`, `valueOf_hexDigits`).
-/

namespace PostFilter.Text

/-! ### Digits -/

theorem isDigit_digitChar : ∀ n, n < 10 → isDigit (digitChar n) = true := by decide

theorem isHexDigit_digitChar : ∀ n, n < 16 → isHexDigit (digitChar n) = true := by decide

theorem digitValue_digitChar : ∀ n, n < 16 → digitValue (digitChar n) = n := by decide

/-- One more digit at the end. -/
theorem valueOf_append (base : Nat) (digits : List Char) (c : Char) :
    valueOf base (digits ++ [c]) = valueOf base digits * base + digitValue c := by
  simp only [valueOf, List.foldl_append, List.foldl_cons, List.foldl_nil]

/-! ### Decimal -/

theorem decimalDigits_ne_nil (n : Nat) : decimalDigits n ≠ [] := by
  rw [decimalDigits]
  split
  · exact List.cons_ne_nil _ _
  · exact List.append_ne_nil_of_right_ne_nil _ (List.cons_ne_nil _ _)

theorem isDigit_of_mem_decimalDigits {n : Nat} {c : Char} (hc : c ∈ decimalDigits n) :
    isDigit c = true := by
  induction n using decimalDigits.induct with
  | case1 n h =>
      rw [decimalDigits, if_pos h, List.mem_singleton] at hc
      rw [hc]
      exact isDigit_digitChar n h
  | case2 n h ih =>
      rw [decimalDigits, if_neg h, List.mem_append, List.mem_singleton] at hc
      rcases hc with hc | rfl
      · exact ih hc
      · exact isDigit_digitChar _ (Nat.mod_lt n (by decide))

/-- A number begins with a digit. -/
theorem decimalDigits_eq_cons (n : Nat) : ∃ c s, decimalDigits n = c :: s ∧ isDigit c = true := by
  obtain ⟨c, s, hdigits⟩ := List.exists_cons_of_ne_nil (decimalDigits_ne_nil n)
  have hmem : c ∈ decimalDigits n := by rw [hdigits]; exact List.mem_cons_self
  exact ⟨c, s, hdigits, isDigit_of_mem_decimalDigits hmem⟩

/-- A number above zero does not begin with a zero. -/
theorem head?_decimalDigits {n : Nat} (hn : 0 < n) : (decimalDigits n).head? ≠ some '0' := by
  induction n using decimalDigits.induct with
  | case1 n h =>
      have hdigit : ∀ n < 10, 0 < n → [digitChar n].head? ≠ some '0' := by decide
      rw [decimalDigits, if_pos h]
      exact hdigit n h hn
  | case2 n h ih =>
      obtain ⟨c, s, hdigits, -⟩ := decimalDigits_eq_cons (n / 10)
      have hhead := ih (by omega)
      rw [hdigits] at hhead
      rw [decimalDigits, if_neg h, hdigits]
      exact hhead

theorem valueOf_decimalDigits (n : Nat) : valueOf 10 (decimalDigits n) = n := by
  induction n using decimalDigits.induct with
  | case1 n h =>
      have hn : n < 16 := Nat.lt_trans h (by decide)
      rw [decimalDigits, if_pos h]
      simp [valueOf, digitValue_digitChar n hn]
  | case2 n h ih =>
      have hlt : n % 10 < 16 := Nat.lt_trans (Nat.mod_lt n (by decide)) (by decide)
      rw [decimalDigits, if_neg h, valueOf_append, ih, digitValue_digitChar _ hlt]
      exact Nat.div_add_mod' n 10

/-- **A decimal is read as the number that it was written for.** -/
theorem decimalValue?_decimalDigits (n : Nat) : decimalValue? (decimalDigits n) = some n := by
  have hall : (decimalDigits n).all isDigit = true :=
    List.all_eq_true.2 fun c hc => isDigit_of_mem_decimalDigits hc
  have hne : (decimalDigits n).isEmpty = false := by
    rw [List.isEmpty_eq_false_iff]
    exact decimalDigits_ne_nil n
  rw [decimalValue?, hall, hne, valueOf_decimalDigits]
  rfl

/-! ### Hexadecimal -/

theorem isHexDigit_of_mem_hexDigits {c : Char} : ∀ {width n : Nat}, c ∈ hexDigits width n →
    isHexDigit c = true
  | width + 1, n, hc => by
      rw [hexDigits, List.mem_append, List.mem_singleton] at hc
      rcases hc with hc | rfl
      · exact isHexDigit_of_mem_hexDigits hc
      · exact isHexDigit_digitChar _ (Nat.mod_lt n (by decide))

/-- Hexadecimal digits spell the number, as far as they reach. -/
theorem valueOf_hexDigits : ∀ width n : Nat, valueOf 16 (hexDigits width n) = n % 16 ^ width
  | 0, n => by rw [Nat.pow_zero, Nat.mod_one]; rfl
  | width + 1, n => by
      rw [hexDigits, valueOf_append, valueOf_hexDigits width,
        digitValue_digitChar _ (Nat.mod_lt n (by decide)), Nat.pow_succ', Nat.mod_mul,
        Nat.add_comm, Nat.mul_comm]

theorem length_hexDigits : ∀ width n : Nat, (hexDigits width n).length = width
  | 0, _ => rfl
  | width + 1, n => by
      rw [hexDigits, List.length_append, length_hexDigits width, List.length_singleton]

end PostFilter.Text
