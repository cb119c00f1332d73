import PostFilter.Proofs.Text.Parts

/-!
# Text — splitting and trimming

Where a text is split is said by what stands before (`splitFirst?_eq_some_iff`), and trimming takes
off what is blank at the ends (`exists_trimList`). The two go together, since no separator is blank:
a text may be trimmed before it is split, as long as the parts are trimmed then
(`splitFirst?_trimList`, `map_trimList_splitAll_trimList`).
-/

namespace PostFilter.Text

variable {p : Char → Bool}

/-! ### Splitting -/

theorem splitFirst?_eq_some_iff {s a b : List Char} :
    splitFirst? p s = some (a, b) ↔
      ∃ c, p c = true ∧ (∀ d ∈ a, p d = false) ∧ s = a ++ c :: b := by
  constructor
  · intro h
    induction s generalizing a with
    | nil => cases h
    | cons c s ih =>
        rw [splitFirst?] at h
        split at h
        · rename_i hc
          cases h
          exact ⟨c, hc, List.forall_mem_nil _, rfl⟩
        · rename_i hc
          obtain ⟨⟨a', b'⟩, hsplit, heq⟩ := Option.map_eq_some_iff.1 h
          cases heq
          obtain ⟨d, hd, ha, rfl⟩ := ih hsplit
          exact ⟨d, hd, List.forall_mem_cons.2 ⟨Bool.not_eq_true _ ▸ hc, ha⟩, rfl⟩
  · rintro ⟨c, hc, ha, rfl⟩
    exact splitFirst?_append hc ha

theorem splitFirst?_eq_none_iff {s : List Char} :
    splitFirst? p s = none ↔ ∀ c ∈ s, p c = false := by
  refine ⟨fun h => ?_, splitFirst?_eq_none⟩
  induction s with
  | nil => exact List.forall_mem_nil _
  | cons c s ih =>
      rw [splitFirst?] at h
      split at h
      · cases h
      · rename_i hc
        exact List.forall_mem_cons.2 ⟨Bool.not_eq_true _ ▸ hc, ih (Option.map_eq_none_iff.1 h)⟩

/-- The first part ends where the text is split first. -/
theorem splitAll_eq (s : List Char) : splitAll p s =
    match splitFirst? p s with
    | none => [s]
    | some (a, b) => a :: splitAll p b := by
  split
  · rename_i h
    exact splitAll_eq_singleton (splitFirst?_eq_none_iff.1 h)
  · rename_i a b h
    obtain ⟨c, hc, ha, rfl⟩ := splitFirst?_eq_some_iff.1 h
    exact splitAll_append hc ha

/-! ### Trimming -/

theorem dropWhile_append_cons {c : Char} (hc : p c = false) (a b : List Char) :
    (a ++ c :: b).dropWhile p = a.dropWhile p ++ c :: b := by
  have hstops : Stops p (c :: b) := stops_cons hc
  rw [List.dropWhile_append]
  split
  · rename_i h
    rw [List.isEmpty_iff.1 h, dropWhile_eq_self hstops, List.nil_append]
  · rfl

theorem trimEnd_append_cons {c : Char} (hc : isBlank c = false) (a b : List Char) :
    trimEnd (a ++ c :: b) = a ++ c :: trimEnd b := by
  rw [trimEnd, List.reverse_append, List.reverse_cons, List.append_assoc, List.singleton_append,
    dropWhile_append_cons hc, List.reverse_append, List.reverse_cons, List.reverse_reverse,
    List.append_assoc, List.singleton_append, trimEnd]

/-- A character that is not blank keeps the two ends apart. -/
theorem trimList_append_cons {c : Char} (hc : isBlank c = false) (a b : List Char) :
    trimList (a ++ c :: b) = trimStart a ++ c :: trimEnd b := by
  rw [trimList, trimStart, dropWhile_append_cons hc, trimEnd_append_cons hc, trimStart]

theorem trimStart_eq_nil {s : List Char} (h : ∀ c ∈ s, isBlank c = true) : trimStart s = [] :=
  List.dropWhile_eq_nil_iff.2 h

theorem trimEnd_eq_nil {s : List Char} (h : ∀ c ∈ s, isBlank c = true) : trimEnd s = [] :=
  List.reverse_eq_nil_iff.2
    (List.dropWhile_eq_nil_iff.2 fun c hc => h c (List.mem_reverse.1 hc))

theorem trimStart_sublist (s : List Char) : (trimStart s).Sublist s := List.dropWhile_sublist _

theorem trimEnd_sublist (s : List Char) : (trimEnd s).Sublist s := by
  have h : (s.reverse.dropWhile isBlank).reverse.Sublist s.reverse.reverse :=
    (List.dropWhile_sublist _).reverse
  rwa [List.reverse_reverse] at h

theorem trimStart_trimStart (s : List Char) : trimStart (trimStart s) = trimStart s :=
  dropWhile_eq_self (stops_dropWhile isBlank s)

theorem trimEnd_trimEnd (s : List Char) : trimEnd (trimEnd s) = trimEnd s := by
  rw [trimEnd, trimEnd, List.reverse_reverse, dropWhile_eq_self (stops_dropWhile isBlank _)]

theorem trimList_trimStart (s : List Char) : trimList (trimStart s) = trimList s := by
  rw [trimList, trimStart_trimStart, trimList]

theorem trimList_eq_nil {s : List Char} (h : ∀ c ∈ s, isBlank c = true) : trimList s = [] := by
  rw [trimList, trimStart_eq_nil h]
  rfl

/-- A text is blank, or has a character that is not. -/
theorem blank_or_append_cons (s : List Char) : (∀ c ∈ s, isBlank c = true) ∨
    ∃ a c b, isBlank c = false ∧ s = a ++ c :: b := by
  by_cases h : ∀ c ∈ s, isBlank c = true
  · exact Or.inl h
  · simp only [not_forall, Bool.not_eq_true] at h
    obtain ⟨c, hmem, hc⟩ := h
    obtain ⟨a, b, rfl⟩ := List.append_of_mem hmem
    exact Or.inr ⟨a, c, b, hc, rfl⟩

theorem trimList_trimEnd (s : List Char) : trimList (trimEnd s) = trimList s := by
  rcases blank_or_append_cons s with h | ⟨a, c, b, hc, rfl⟩
  · rw [trimEnd_eq_nil h, trimList_eq_nil h]
    rfl
  · rw [trimEnd_append_cons hc, trimList_append_cons hc, trimList_append_cons hc, trimEnd_trimEnd]

theorem trimStart_append {gap : List Char} (h : ∀ c ∈ gap, isBlank c = true) (s : List Char) :
    trimStart (gap ++ s) = trimStart s := List.dropWhile_append_of_pos h

theorem trimEnd_append {gap : List Char} (s : List Char) (h : ∀ c ∈ gap, isBlank c = true) :
    trimEnd (s ++ gap) = trimEnd s := by
  rw [trimEnd, List.reverse_append,
    List.dropWhile_append_of_pos fun c hc => h c (List.mem_reverse.1 hc), ← trimEnd]

theorem trimList_append_left {gap : List Char} (h : ∀ c ∈ gap, isBlank c = true)
    (s : List Char) : trimList (gap ++ s) = trimList s := by
  rw [trimList, trimStart_append h, ← trimList]

theorem trimList_append_right {gap : List Char} (s : List Char)
    (h : ∀ c ∈ gap, isBlank c = true) : trimList (s ++ gap) = trimList s := by
  rw [← trimList_trimEnd, trimEnd_append s h, trimList_trimEnd]

/-- A text is its trimmed form with blanks around it. -/
theorem exists_trimList (s : List Char) : ∃ before after, (∀ c ∈ before, isBlank c = true) ∧
    (∀ c ∈ after, isBlank c = true) ∧ s = before ++ (trimList s ++ after) := by
  refine ⟨s.takeWhile isBlank, ((trimStart s).reverse.takeWhile isBlank).reverse,
    fun c hc => List.mem_takeWhile_imp hc,
    fun c hc => List.mem_takeWhile_imp (List.mem_reverse.1 hc), ?_⟩
  rw [trimList, trimEnd, ← List.reverse_append, List.takeWhile_append_dropWhile,
    List.reverse_reverse, trimStart, List.takeWhile_append_dropWhile]

/-! ### Splitting what is trimmed -/

/-- A text is split where its trimmed form is. -/
theorem splitFirst?_trimList (hp : ∀ c, p c = true → isBlank c = false) (s : List Char) :
    splitFirst? p (trimList s) =
      (splitFirst? p s).map fun (a, b) => (trimStart a, trimEnd b) := by
  cases h : splitFirst? p s with
  | none =>
      rw [splitFirst?_eq_none_iff] at h
      refine splitFirst?_eq_none fun c hc => h c ?_
      exact (trimStart_sublist s).subset ((trimEnd_sublist _).subset hc)
  | some parts =>
      obtain ⟨a, b⟩ := parts
      obtain ⟨c, hc, ha, rfl⟩ := splitFirst?_eq_some_iff.1 h
      rw [trimList_append_cons (hp c hc)]
      exact splitFirst?_append hc fun d hd => ha d ((trimStart_sublist a).subset hd)

theorem splitFirst?_trimEnd (hp : ∀ c, p c = true → isBlank c = false) (s : List Char) :
    splitFirst? p (trimEnd s) = (splitFirst? p s).map fun (a, b) => (a, trimEnd b) := by
  cases h : splitFirst? p s with
  | none =>
      rw [splitFirst?_eq_none_iff] at h
      exact splitFirst?_eq_none fun c hc => h c ((trimEnd_sublist s).subset hc)
  | some parts =>
      obtain ⟨a, b⟩ := parts
      obtain ⟨c, hc, ha, rfl⟩ := splitFirst?_eq_some_iff.1 h
      rw [trimEnd_append_cons (hp c hc)]
      exact splitFirst?_append hc ha

theorem map_trimList_splitAll_trimEnd (hp : ∀ c, p c = true → isBlank c = false)
    (s : List Char) : (splitAll p (trimEnd s)).map trimList = (splitAll p s).map trimList := by
  rw [splitAll_eq, splitAll_eq s, splitFirst?_trimEnd hp]
  cases h : splitFirst? p s with
  | none => rw [Option.map_none, List.map_singleton, List.map_singleton, trimList_trimEnd]
  | some parts =>
      have := length_of_splitFirst? h
      rw [Option.map_some, List.map_cons, List.map_cons,
        map_trimList_splitAll_trimEnd hp parts.2]
termination_by s.length

/-- A text may be trimmed before it is split, if the parts are. -/
theorem map_trimList_splitAll_trimList (hp : ∀ c, p c = true → isBlank c = false)
    (s : List Char) : (splitAll p (trimList s)).map trimList = (splitAll p s).map trimList := by
  rw [splitAll_eq, splitAll_eq s, splitFirst?_trimList hp]
  cases h : splitFirst? p s with
  | none => rw [Option.map_none, List.map_singleton, List.map_singleton, trimList_trimList]
  | some parts =>
      rw [Option.map_some, List.map_cons, List.map_cons, trimList_trimStart,
        map_trimList_splitAll_trimEnd hp]

end PostFilter.Text
