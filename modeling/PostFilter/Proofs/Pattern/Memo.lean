import Mathlib.Data.List.Induction
import PostFilter.Pattern.Memo

/-!
# Patterns — a memo changes no pattern

A memo of patterns holds what it should (`PatternMemo.Holds`) if each of its entries is the pattern
that its source and letters are read as, and there are no more of them than it may keep. A full memo
starts over before one more is kept, so every step keeps that (`PatternMemo.Holds.apply`), and it
holds after every run.

A memo that holds what it should hands out what is read without it (`PatternMemo.Holds.read_fst`).
-/

namespace PostFilter.PatternMemo

open Pattern (Fault readLetters)

variable {m : PatternMemo} {source letters : String} {p : Pattern} {fault : Fault}

/-- Whether a memo holds what it should. -/
structure Holds (m : PatternMemo) : Prop where
  entries : ∀ source letters p, m.entries[(source, letters)]? = some p →
    readLetters source letters = .ok p
  size : m.size ≤ capacity

/-! ### Keeping a pattern -/

theorem holds_empty : empty.Holds := by
  refine ⟨fun source letters p hp => ?_, Nat.zero_le _⟩
  change (∅ : Std.HashMap (String × String) Pattern)[(source, letters)]? = some p at hp
  rw [Std.HashMap.getElem?_empty] at hp
  cases hp

theorem getElem?_insert_self (m : PatternMemo) (key : String × String) (p : Pattern) :
    (m.insert key p).entries[key]? = some p := Std.HashMap.getElem?_insert_self

/-- An entry of a memo that keeps one more pattern is that pattern, or was there before. -/
theorem entries_insert {key key' : String × String} {p' : Pattern}
    (h : (m.insert key p).entries[key']? = some p') :
    (key = key' ∧ p = p') ∨ m.entries[key']? = some p' := by
  rw [insert] at h
  split at h <;> dsimp only at h <;> rw [Std.HashMap.getElem?_insert] at h <;> split at h
  · exact Or.inl ⟨eq_of_beq ‹_›, Option.some.inj h⟩
  · rw [Std.HashMap.getElem?_empty] at h
    cases h
  · exact Or.inl ⟨eq_of_beq ‹_›, Option.some.inj h⟩
  · exact Or.inr h

/-- A full memo starts over, so one more pattern fits. -/
theorem size_insert_le (m : PatternMemo) (key : String × String) (p : Pattern) :
    (m.insert key p).size ≤ capacity := by
  rw [insert]
  split
  · have hone : ((∅ : Std.HashMap (String × String) Pattern).insert key p).size ≤ 0 + 1 :=
      Std.HashMap.size_insert_le
    exact Nat.le_trans hone (by decide)
  · rename_i hroom
    exact Nat.le_trans Std.HashMap.size_insert_le (Nat.lt_of_not_le hroom)

theorem Holds.insert (h : m.Holds) (hp : readLetters source letters = .ok p) :
    (m.insert (source, letters) p).Holds := by
  refine ⟨fun source' letters' p' hp' => ?_, size_insert_le m _ p⟩
  rcases entries_insert hp' with ⟨hkey, rfl⟩ | hold
  · cases hkey
    exact hp
  · exact h.entries source' letters' p' hold

/-! ### Reading -/

/-- What reading does with a memo that holds what it should: it hands out what is read without the
memo, which it keeps if it is new. -/
theorem Holds.read_cases (h : m.Holds) (source letters : String) :
    (∃ p, readLetters source letters = .ok p ∧ m.entries[(source, letters)]? = some p ∧
      m.read source letters = (.ok p, m)) ∨
    (∃ p, readLetters source letters = .ok p ∧
      m.read source letters = (.ok p, m.insert (source, letters) p)) ∨
    ∃ fault, readLetters source letters = .error fault ∧
      m.read source letters = (.error fault, m) := by
  rw [read]
  cases hletters : Pattern.unsupported? letters with
  | some c => exact Or.inr (Or.inr ⟨_, by rw [readLetters, hletters], rfl⟩)
  | none =>
      have hread : readLetters source letters =
          Pattern.ofFlags source (Pattern.Flags.setBy letters.toList) := by
        rw [readLetters, hletters]
      cases hentry : m.entries[(source, letters)]? with
      | some p => exact Or.inl ⟨p, h.entries source letters p hentry, rfl, rfl⟩
      | none =>
          cases hp : Pattern.ofFlags source (Pattern.Flags.setBy letters.toList) with
          | ok p => exact Or.inr (Or.inl ⟨p, hread.trans hp, rfl⟩)
          | error fault => exact Or.inr (Or.inr ⟨fault, hread.trans hp, rfl⟩)

/-- **A pattern is read by way of a memo as it is without.** -/
theorem Holds.read_fst (h : m.Holds) (source letters : String) :
    (m.read source letters).1 = readLetters source letters := by
  rcases h.read_cases source letters with ⟨p, hp, -, hread⟩ | ⟨p, hp, hread⟩ | ⟨fault, hf, hread⟩
  · rw [hp, hread]
  · rw [hp, hread]
  · rw [hf, hread]

/-- What was read is kept. -/
theorem Holds.read_of_ok (h : m.Holds) (hp : readLetters source letters = .ok p) :
    (m.read source letters).2.entries[(source, letters)]? = some p := by
  rcases h.read_cases source letters with ⟨q, hq, hentry, hread⟩ | ⟨q, hq, hread⟩ | ⟨_, hf, -⟩
  · cases hp.symm.trans hq
    rw [hread]
    exact hentry
  · cases hp.symm.trans hq
    rw [hread]
    exact getElem?_insert_self m _ p
  · cases hp.symm.trans hf

/-- What cannot be read leaves the memo alone. -/
theorem Holds.read_of_error (h : m.Holds) (hf : readLetters source letters = .error fault) :
    (m.read source letters).2 = m := by
  rcases h.read_cases source letters with ⟨_, hp, -⟩ | ⟨_, hp, -⟩ | ⟨_, -, hread⟩
  · cases hp.symm.trans hf
  · cases hp.symm.trans hf
  · rw [hread]

/-! ### Runs -/

/-- **A step keeps what a memo holds.** -/
theorem Holds.apply (h : m.Holds) (step : Step) : (m.apply step).Holds := by
  cases step with
  | read source letters =>
      rw [PatternMemo.apply]
      rcases h.read_cases source letters with ⟨p, -, -, hread⟩ | ⟨p, hp, hread⟩ | ⟨_, -, hread⟩
      · rwa [hread]
      · rw [hread]
        exact h.insert hp
      · rwa [hread]
  | clear => exact holds_empty

theorem holds_after (steps : List Step) : (after steps).Holds := by
  induction steps using List.reverseRecOn with
  | nil => exact holds_empty
  | append_singleton steps step ih =>
      rw [after, List.foldl_append]
      exact ih.apply step

/-- **A memo of patterns is transparent and bounded.** After every run it has no more entries than
it may keep, and each is the pattern that its own source and letters are read as. What is read next
is what is read without the memo. A pattern that is read is kept, and what cannot be read leaves the
memo as it was. -/
theorem after_reads (steps : List Step) :
    let m := after steps
    m.size ≤ capacity ∧
    (∀ source letters p, m.entries[(source, letters)]? = some p →
      readLetters source letters = .ok p) ∧
    ∀ source letters, (m.read source letters).1 = readLetters source letters ∧
      (∀ p, readLetters source letters = .ok p →
        (m.read source letters).2.entries[(source, letters)]? = some p) ∧
      ∀ fault, readLetters source letters = .error fault → (m.read source letters).2 = m := by
  intro m
  have h : m.Holds := holds_after steps
  exact ⟨h.size, h.entries, fun source letters =>
    ⟨h.read_fst source letters, fun _ => h.read_of_ok, fun _ => h.read_of_error⟩⟩

/-- A pattern, one that is not closed and one with a letter that no pattern has. -/
theorem after_reads_of_faults :
    let m := after [.read "a" "m", .clear, .read "(" "", .read "a" ""]
    m.size ≤ 512 ∧
    (∃ p, readLetters "a" "m" = .ok p ∧
      (m.read "a" "m").2.entries[("a", "m")]? = some p) ∧
    (∃ fault, readLetters "(" "" = .error fault ∧ (m.read "(" "").2 = m) ∧
    readLetters "a" "gq" = .error (.flagUnsupported 'q') ∧ (m.read "a" "gq").2 = m := by
  intro m
  have hread : (readLetters "a" "m").toBool = true := by decide +kernel
  have hopen : (readLetters "(" "").toBool = false := by decide +kernel
  obtain ⟨p, hp⟩ : ∃ p, readLetters "a" "m" = .ok p := by
    cases h : readLetters "a" "m" with
    | ok p => exact ⟨p, rfl⟩
    | error fault =>
        rw [h] at hread
        cases hread
  obtain ⟨fault, hfault⟩ : ∃ fault, readLetters "(" "" = .error fault := by
    cases h : readLetters "(" "" with
    | ok p =>
        rw [h] at hopen
        cases hopen
    | error fault => exact ⟨fault, rfl⟩
  have hletter : readLetters "a" "gq" = .error (.flagUnsupported 'q') := rfl
  obtain ⟨hsize, -, hreads⟩ :=
    after_reads [.read "a" "m", .clear, .read "(" "", .read "a" ""]
  exact ⟨hsize, ⟨p, hp, (hreads "a" "m").2.1 p hp⟩, ⟨fault, hfault, (hreads "(" "").2.2 _ hfault⟩,
    hletter, (hreads "a" "gq").2.2 _ hletter⟩

end PostFilter.PatternMemo
