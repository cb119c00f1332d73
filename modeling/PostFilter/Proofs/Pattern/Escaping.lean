import PostFilter.Proofs.Cursor.Spells
import PostFilter.Proofs.Pattern.Slashes

/-!
# Patterns — escaped slashes and the search for the end

The writer of escapes goes through a source character by character and keeps a state; the reader
goes through the bytes of a text and looks for the slash that ends a literal. Behind an escaped
source they meet: a slash there ends the literal exactly if the state of the writer is closed, and
none does before (`scan_escapeSlashes`).
-/

namespace PostFilter.Pattern.LiteralState

open Document PatternRule Text

variable {st : LiteralState} {s : List Char}

/-! ### The writer -/

/-- The writer goes on from the state that it has reached. -/
theorem escapeSlashesFrom_append (st : LiteralState) (s t : List Char) :
    escapeSlashesFrom st.escaped st.inClass (s ++ t) =
      escapeSlashesFrom st.escaped st.inClass s ++
        escapeSlashesFrom (st.after s).escaped (st.after s).inClass t := by
  induction s generalizing st with
  | nil => rfl
  | cons c s ih =>
      rw [List.cons_append, escapeSlashesFrom_cons, escapeSlashesFrom_cons, ih, after_cons,
        List.append_assoc]

/-- Where no slash would end the literal, none is escaped. -/
theorem escapeSlashesFrom_of_covers (h : st.Covers s) :
    escapeSlashesFrom st.escaped st.inClass s = s := by
  induction s generalizing st with
  | nil => rfl
  | cons c s ih =>
      have hwritten : st.written c = [c] := by
        rw [written, if_neg]
        rw [Bool.and_eq_true, beq_iff_eq, Bool.not_eq_true']
        rintro ⟨hc, hclosed⟩
        exact Bool.false_ne_true (hclosed.symm.trans (h.1 hc))
      rw [escapeSlashesFrom_cons, hwritten, ih h.2]
      rfl

theorem map_char_escaping (st : LiteralState) (s : List Char) :
    (st.escaping s).map EscapedChar.char =
      escapeSlashesFrom st.escaped st.inClass s := by
  induction s generalizing st with
  | nil => rfl
  | cons c s ih =>
      rw [escapeSlashesFrom_cons, ← ih, escaping, written]
      split
      · rename_i h
        rw [Bool.and_eq_true, beq_iff_eq] at h
        rw [h.1]
        rfl
      · rfl

theorem filterMap_own?_escaping (st : LiteralState) (s : List Char) :
    (st.escaping s).filterMap EscapedChar.own? = s := by
  induction s generalizing st with
  | nil => rfl
  | cons c s ih =>
      rw [escaping]
      split <;> exact congrArg (c :: ·) (ih (st.next c))

/-! ### The reader -/

/-- The same by offsets: the reader stops at the slash behind the source, if that ends the literal,
or behind that slash. -/
theorem patternEnd?_covers_slash (h : Covers {} s) (front rest : List Char) :
    Cursor.patternEnd? (front ++ '/' :: (s ++ '/' :: rest)) false (byteLength front + 1) =
      if (after {} s).isOpen then
        (((after {} s).next '/').scan rest).map fun (a, _) =>
          byteLength front + 1 + byteLength s + (1 + byteLength a)
      else some (byteLength front + 1 + byteLength s) := by
  have hat : At (front ++ '/' :: (s ++ '/' :: rest)) (byteLength front + 1)
      (s ++ '/' :: rest) :=
    ⟨front ++ ['/'], List.append_cons .., byteLength_append ..⟩
  rw [Cursor.patternEnd?_of_at hat, scanPattern_covers_slash h]
  split
  · rw [Option.map_map]
    congr 1
    funext ⟨a, b⟩
    simp only [Function.comp_apply, byteLength_append, byteLength_cons, Nat.add_assoc]
    rfl
  · rfl

/-- The reader stops at the slash behind the source exactly if that ends the literal. -/
theorem patternEnd?_eq_some_iff (h : Covers {} s) (front rest : List Char) :
    Cursor.patternEnd? (front ++ '/' :: (s ++ '/' :: rest)) false (byteLength front + 1) =
      some (byteLength front + 1 + byteLength s) ↔ (after {} s).isOpen = false := by
  rw [patternEnd?_covers_slash h]
  split
  · rename_i hopen
    rw [hopen]
    refine iff_of_false (fun hstop => ?_) (fun hclosed => Bool.false_ne_true hclosed.symm)
    obtain ⟨⟨a, b⟩, -, hlength⟩ := Option.map_eq_some_iff.1 hstop
    dsimp only at hlength
    omega
  · rename_i hclosed
    exact iff_of_true rfl (Bool.not_eq_true _ ▸ hclosed)

/-- The reader does not stop before the slash behind the source. -/
theorem le_of_patternEnd?_eq_some (h : Covers {} s) {front rest : List Char} {stop : Nat}
    (hstop : Cursor.patternEnd? (front ++ '/' :: (s ++ '/' :: rest)) false
      (byteLength front + 1) = some stop) : byteLength front + 1 + byteLength s ≤ stop := by
  rw [patternEnd?_covers_slash h] at hstop
  split at hstop
  · obtain ⟨parts, -, rfl⟩ := Option.map_eq_some_iff.1 hstop
    exact Nat.le_add_right ..
  · exact Nat.le_of_eq (Option.some.inj hstop)

/-! ### Both -/

theorem isOpen_eq_false_iff : st.isOpen = false ↔ st.inClass = false ∧ st.escaped = false := by
  rw [isOpen, Bool.or_eq_false_iff, and_comm]

theorem escapeSlashes_escapeSlashes (source : String) :
    escapeSlashes (escapeSlashes source) = escapeSlashes source := by
  have hkept := escapeSlashesFrom_of_covers (covers_escapeSlashes source)
  exact (congrArg String.ofList hkept).trans String.ofList_toList

/-- **The writer of escapes and the reader that looks for the end of a literal agree.** The reader
stops at the slash behind an escaped source exactly if the writer reaches the end of the source
neither in a class nor right behind a backslash that covers the next character, and it never stops
before. Escaping twice is escaping once; and without the inserted backslashes, an escaped source is
the source. -/
theorem scan_escapeSlashes (source : String) :
    (∀ more : List Char, escapeSlashesFrom false false (source.toList ++ more) =
      (escapeSlashes source).toList ++
        escapeSlashesFrom (ofSource source).escaped (ofSource source).inClass more) ∧
    (∀ front rest : List Char,
      let escaped := (escapeSlashes source).toList
      let text := front ++ '/' :: (escaped ++ '/' :: rest)
      let start := byteLength front + 1
      (scanPattern false (escaped ++ '/' :: rest) = some (escaped, rest) ↔
        (ofSource source).inClass = false ∧ (ofSource source).escaped = false) ∧
      (Cursor.patternEnd? text false start = some (start + byteLength escaped) ↔
        (ofSource source).inClass = false ∧ (ofSource source).escaped = false) ∧
      ∀ stop, Cursor.patternEnd? text false start = some stop →
        start + byteLength escaped ≤ stop) ∧
    escapeSlashes (escapeSlashes source) = escapeSlashes source ∧
    (escaping {} source.toList).map EscapedChar.char = (escapeSlashes source).toList ∧
    (escaping {} source.toList).filterMap EscapedChar.own? = source.toList := by
  have hcovers : Covers {} (escapeSlashes source).toList := covers_escapeSlashes source
  refine ⟨fun more => ?_, fun front rest => ⟨?_, ?_, fun stop => le_of_patternEnd?_eq_some hcovers⟩,
    escapeSlashes_escapeSlashes source, ?_, filterMap_own?_escaping {} source.toList⟩
  · rw [toList_escapeSlashes source]
    exact escapeSlashesFrom_append {} source.toList more
  · rw [scanPattern_eq_some_iff hcovers, after_escapeSlashes source, isOpen_eq_false_iff]
  · rw [patternEnd?_eq_some_iff hcovers, after_escapeSlashes source, isOpen_eq_false_iff]
  · rw [toList_escapeSlashes source]
    exact map_char_escaping {} source.toList

/-- The slash behind `ä/[/]` in a literal ends it, with one backslash inserted. That behind `[` does
not: in `/[/]/` the literal ends at the last slash. -/
theorem scan_escapeSlashes_of_class :
    Cursor.patternEnd? "#exp(/ä\\/[/]/i)".toList false 6 = some 13 ∧
    Cursor.patternEnd? "/[/]/".toList false 1 = some 4 ∧ byteLength "/[".toList ≤ 4 := by
  obtain ⟨-, hends, -⟩ := scan_escapeSlashes "ä/[/]"
  obtain ⟨-, hopens, -⟩ := scan_escapeSlashes "["
  have hat : At "/[/]/".toList 1 "[/]/".toList := ⟨['/'], rfl, rfl⟩
  have hstop : Cursor.patternEnd? "/[/]/".toList false 1 = some 4 :=
    (Cursor.patternEnd?_of_at hat).trans (by decide)
  exact ⟨(hends "#exp(".toList "i)".toList).2.1.2 (by decide), hstop,
    (hopens [] "]/".toList).2.2 4 hstop⟩

end PostFilter.Pattern.LiteralState
