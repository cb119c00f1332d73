import PostFilter.Proofs.Text.Parts

/-!
# Text — the character behind a reading

What a reading leaves decides what can be taken next: nothing at the end of the text
(`next?_of_rest_nil`), and otherwise the first character of the rest (`take?_of_rest_cons`,
`next?_of_rest_cons`, `sign?_of_rest_cons`).
-/

namespace PostFilter.Text

section
variable {α : Type} {s : List Char} {r : Reading α s} {c : Char} {rest : List Char}

theorem rest_stay (a : α) (s : List Char) : (Reading.stay a s).rest = s := rfl

theorem take?_of_rest_cons (h : r.rest = c :: rest) :
    ∃ t, r.take? = some t ∧ t.value = c ∧ t.rest = rest := by
  rw [Reading.take?]
  split
  · rename_i hrest
    rw [h] at hrest
    cases hrest
  · rename_i d more hrest
    rw [h] at hrest
    cases hrest
    exact ⟨_, rfl, rfl, rfl⟩

theorem next?_of_rest_nil (h : r.rest = []) : r.next? = none := by
  rw [Reading.next?, Reading.take?]
  split
  · rfl
  · rename_i hrest
    rw [h] at hrest
    cases hrest

theorem next?_of_rest_cons (h : r.rest = c :: rest) :
    ∃ n, r.next? = some n ∧ n.value = c ∧ n.rest = rest := by
  obtain ⟨t, ht, hvalue, hleft⟩ := take?_of_rest_cons h
  rw [Reading.next?, ht]
  exact ⟨_, rfl, hvalue, hleft⟩

theorem sign?_of_rest_cons (h : r.rest = c :: rest) : ∃ n, r.sign? c = some n ∧ n.rest = rest := by
  obtain ⟨n, hn, hvalue, hleft⟩ := next?_of_rest_cons h
  rw [Reading.sign?, hn, Option.filter_some_pos (by rw [hvalue]; exact beq_self_eq_true c)]
  exact ⟨_, rfl, hleft⟩

theorem sign?_eq_none (h : Stops (· == c) r.rest) : r.sign? c = none := by
  match hrest : r.rest with
  | [] => rw [Reading.sign?, next?_of_rest_nil hrest]; rfl
  | d :: more =>
      obtain ⟨n, hn, hvalue, -⟩ := next?_of_rest_cons hrest
      have hd : (n.value == c) = false := by
        rw [hvalue]
        exact h d (by rw [hrest]; rfl)
      simp only [Reading.sign?, hn, Option.filter_some, hd]
      rfl

end

end PostFilter.Text
