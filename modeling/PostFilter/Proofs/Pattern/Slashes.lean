import PostFilter.Book.QuickHide
import PostFilter.Document.WellFormed
import PostFilter.Pattern.LiteralState

/-!
# Patterns — slashes that do not end a literal

The reader of literals takes a backslash and the character behind it in one step, the writer of
escapes takes one character at a time. Both keep to the same states: the reader is `scan`, which
looks at single characters as well (`scanPattern_eq_scan`), and the writer leaves the state that it
would leave without its backslashes (`after_escapeSlashesFrom`). So an escaped source is taken whole
(`covers_escapeSlashesFrom`), and the slash behind it ends the literal exactly if the state there is
not open.
-/

namespace PostFilter.Pattern.LiteralState

open Document PatternRule

variable {st : LiteralState} {c : Char} {s t : List Char}

theorem after_cons (st : LiteralState) (c : Char) (s : List Char) :
    st.after (c :: s) = (st.next c).after s := rfl

theorem after_append (st : LiteralState) (s t : List Char) :
    st.after (s ++ t) = (st.after s).after t := List.foldl_append

/-- Whether no slash of a text ends the literal. -/
def Covers (st : LiteralState) : List Char → Prop
  | [] => True
  | c :: rest => (c = '/' → st.isOpen = true) ∧ (st.next c).Covers rest

theorem covers_append_iff : ∀ {st : LiteralState} {s : List Char},
    st.Covers (s ++ t) ↔ st.Covers s ∧ (st.after s).Covers t
  | _, [] => (and_iff_right trivial).symm
  | st, c :: s => by
      rw [List.cons_append, Covers, Covers, covers_append_iff, after_cons, and_assoc]

/-- A text without slashes ends no literal. -/
theorem covers_of_notMem : ∀ {st : LiteralState} {s : List Char}, '/' ∉ s → st.Covers s
  | _, [], _ => trivial
  | _, _ :: _, h =>
      ⟨fun hc => absurd (hc ▸ List.mem_cons_self) h,
        covers_of_notMem fun hs => h (List.mem_cons_of_mem _ hs)⟩

/-- A slash that does not end the literal, and behind it no other slash. -/
theorem covers_slash (h : st.isOpen = true) (hs : '/' ∉ s) : st.Covers ('/' :: s) :=
  ⟨fun _ => h, covers_of_notMem hs⟩

/-! ### Reading -/

/-- The source of a literal up to the slash that ends it, and the text behind that slash. -/
def scan (st : LiteralState) : List Char → Option (List Char × List Char)
  | [] => none
  | c :: rest =>
    if c == '/' && !st.isOpen then some ([], rest)
    else ((st.next c).scan rest).map fun (a, b) => (c :: a, b)

theorem scan_cons (h : c = '/' → st.isOpen = true) (s : List Char) :
    st.scan (c :: s) = ((st.next c).scan s).map fun (a, b) => (c :: a, b) := by
  rw [scan, if_neg]
  rw [Bool.and_eq_true, beq_iff_eq, Bool.not_eq_true']
  exact fun ⟨hc, hopen⟩ => Bool.false_ne_true (hopen.symm.trans (h hc))

theorem scan_backslash (st : LiteralState) (s : List Char) :
    st.scan ('\\' :: s) = ((st.next '\\').scan s).map fun (a, b) => ('\\' :: a, b) :=
  scan_cons (fun h => absurd h (by decide)) s

theorem scanPattern_eq_scan (inClass : Bool) (s : List Char) :
    scanPattern inClass s = scan ⟨false, inClass⟩ s := by
  fun_induction scanPattern inClass s with
  | case1 => rfl
  | case2 inClass c hc =>
      rw [eq_of_beq hc, scan_backslash]
      rfl
  | case3 inClass c hc d more ih =>
      have hnext : (next ⟨true, inClass⟩ d) = ⟨false, inClass⟩ := by simp [next]
      have hescaped : next ⟨false, inClass⟩ '\\' = ⟨true, inClass⟩ := by simp [next]
      rw [eq_of_beq hc, scan_backslash, hescaped, scan_cons fun _ => rfl, hnext, ← ih,
        Option.map_map]
      rfl
  | case4 inClass c rest hc hslash =>
      rw [scan, if_pos]
      rwa [isOpen, Bool.false_or]
  | case5 inClass c rest hc hslash inClass' ih =>
      have hnext : next ⟨false, inClass⟩ c = ⟨false, inClass'⟩ := by
        simp [next, inClass', beq_eq_false_iff_ne.2 (fun h => hc (beq_iff_eq.2 h))]
      rw [scan, isOpen, Bool.false_or, if_neg hslash, hnext, ih]

/-- A text without a slash that ends the literal is taken whole. -/
theorem scan_append (h : st.Covers s) (t : List Char) :
    st.scan (s ++ t) = ((st.after s).scan t).map fun (a, b) => (s ++ a, b) := by
  induction s generalizing st with
  | nil => exact Option.map_id'.symm
  | cons c s ih =>
      rw [List.cons_append, scan_cons h.1, ih h.2, Option.map_map, after_cons]
      rfl

theorem scan_of_covers (h : st.Covers s) : st.scan s = none := by
  have hscan := scan_append h []
  rwa [List.append_nil] at hscan

/-- The slash that ends a literal. -/
theorem scan_slash (h : st.isOpen = false) (s : List Char) : st.scan ('/' :: s) = some ([], s) := by
  rw [scan, h]
  rfl

/-! ### Escaping -/

/-- What is written for a character: a slash that would end the literal has a backslash before
it. -/
def written (st : LiteralState) (c : Char) : List Char :=
  if c == '/' && !st.isOpen then ['\\', '/'] else [c]

theorem escapeSlashesFrom_cons (st : LiteralState) (c : Char) (s : List Char) :
    escapeSlashesFrom st.escaped st.inClass (c :: s) =
      st.written c ++ escapeSlashesFrom (st.next c).escaped (st.next c).inClass s := by
  rw [escapeSlashesFrom, written, isOpen, Bool.not_or, Bool.and_assoc]
  rfl

/-- What is written for a character leaves the state that the character leaves, and ends no
literal. -/
theorem written_spec (st : LiteralState) (c : Char) :
    st.after (st.written c) = st.next c ∧ st.Covers (st.written c) := by
  rw [written]
  split
  · rename_i h
    obtain ⟨escaped, inClass⟩ := st
    simp only [isOpen, Bool.and_eq_true, beq_iff_eq, Bool.not_eq_true', Bool.or_eq_false_iff] at h
    obtain ⟨rfl, rfl, rfl⟩ := h
    exact ⟨rfl, nofun, fun _ => rfl, trivial⟩
  · rename_i h
    refine ⟨rfl, fun hc => ?_, trivial⟩
    rwa [hc, beq_self_eq_true, Bool.true_and, Bool.not_eq_true', Bool.not_eq_false] at h

theorem escapeSlashesFrom_eq_nil_iff (st : LiteralState) :
    escapeSlashesFrom st.escaped st.inClass s = [] ↔ s = [] := by
  cases s with
  | nil => exact iff_of_true rfl rfl
  | cons c s =>
      have hne : st.written c ≠ [] := by
        rw [written]
        split <;> exact List.cons_ne_nil _ _
      rw [escapeSlashesFrom_cons]
      exact iff_of_false (List.append_ne_nil_of_left_ne_nil hne _) (List.cons_ne_nil c s)

/-- **Escaping changes nothing of the state.** -/
theorem after_escapeSlashesFrom (st : LiteralState) (s : List Char) :
    st.after (escapeSlashesFrom st.escaped st.inClass s) = st.after s := by
  induction s generalizing st with
  | nil => rfl
  | cons c s ih => rw [escapeSlashesFrom_cons, after_append, (written_spec st c).1, ih, after_cons]

/-- **An escaped source has no slash that ends the literal.** -/
theorem covers_escapeSlashesFrom (st : LiteralState) (s : List Char) :
    st.Covers (escapeSlashesFrom st.escaped st.inClass s) := by
  induction s generalizing st with
  | nil => trivial
  | cons c s ih =>
      rw [escapeSlashesFrom_cons, covers_append_iff, (written_spec st c).1]
      exact ⟨(written_spec st c).2, ih (st.next c)⟩

/-! ### In a class -/

/-- One character leads to the same state from inside a class and from outside, or stays where it
is. -/
theorem next_inClass (escaped : Bool) (c : Char) :
    next ⟨escaped, true⟩ c = next ⟨escaped, false⟩ c ∨
      ∃ escaped', ∀ inClass, next ⟨escaped, inClass⟩ c = ⟨escaped', inClass⟩ := by
  cases escaped with
  | true => exact Or.inr ⟨false, fun inClass => by simp [next]⟩
  | false =>
      by_cases hopening : c = '['
      · exact Or.inl (by rw [hopening]; rfl)
      · by_cases hclosing : c = ']'
        · exact Or.inl (by rw [hclosing]; rfl)
        · exact Or.inr ⟨c == '\\', fun inClass => by simp [next, hopening, hclosing]⟩

/-- A text that ends no literal ends none in a class either, and leaves no less open there. -/
theorem covers_inClass {escaped : Bool} (h : Covers ⟨escaped, false⟩ s) :
    Covers ⟨escaped, true⟩ s ∧ ((after ⟨escaped, false⟩ s).isOpen = true →
      (after ⟨escaped, true⟩ s).isOpen = true) := by
  induction s generalizing escaped with
  | nil => exact ⟨trivial, fun _ => Bool.or_true escaped⟩
  | cons c s ih =>
      have hopen : isOpen ⟨escaped, true⟩ = true := Bool.or_true escaped
      rw [after_cons, after_cons]
      rcases next_inClass escaped c with hnext | ⟨escaped', hnext⟩
      · rw [Covers, hnext]
        exact ⟨⟨fun _ => hopen, h.2⟩, id⟩
      · have hs := h.2
        rw [hnext] at hs
        rw [Covers, hnext, hnext]
        exact ⟨⟨fun _ => hopen, (ih hs).1⟩, (ih hs).2⟩

/-! ### Sources -/

variable {source : List Char}

/-- A source that leaves the literal open is not ended by a slash behind which there is none. -/
theorem scanPattern_of_isOpen (hsource : Covers {} source)
    (hopen : (after {} source).isOpen = true) {rest : List Char} (hrest : '/' ∉ rest) :
    scanPattern false (source ++ '/' :: rest) = none := by
  rw [scanPattern_eq_scan]
  exact scan_of_covers (covers_append_iff.2 ⟨hsource, covers_slash hopen hrest⟩)

/-- A source that leaves the literal open, written in two literals, is not ended by a slash at all
or by the one before its second copy. -/
theorem scanPattern_of_isOpen_twice (hsource : Covers {} source)
    (hopen : (after {} source).isOpen = true) {between rest : List Char}
    (hbetween : '/' ∉ between) (hrest : '/' ∉ rest) :
    let text := source ++ '/' :: (between ++ ['('])
    scanPattern false (text ++ '/' :: (source ++ '/' :: rest)) = none ∨
      scanPattern false (text ++ '/' :: (source ++ '/' :: rest)) =
        some (text, source ++ '/' :: rest) := by
  intro text
  have htext : Covers {} text := by
    refine covers_append_iff.2 ⟨hsource, covers_slash hopen fun hmem => ?_⟩
    rcases List.mem_append.1 hmem with hmem | hmem
    · exact hbetween hmem
    · cases List.mem_singleton.1 hmem
  have hscan := scan_append htext ('/' :: (source ++ '/' :: rest))
  rw [scanPattern_eq_scan, hscan]
  cases hend : (after {} text).isOpen with
  | false =>
      rw [scan_slash hend]
      exact Or.inr (by simp)
  | true =>
      -- The parenthesis takes no backslash, so what is still open is a class.
      have hclass : (after {} text).inClass = true := by
        have hescaped : (after {} text).escaped = false := by
          rw [after_append, after_cons, after_append]
          rfl
        rwa [isOpen, hescaped] at hend
      have hslash : (after {} text).next '/' = ⟨false, true⟩ := by
        rw [next, hclass]
        simp
      obtain ⟨hcovers, hstill⟩ := covers_inClass hsource
      have hbehind : (after {} text).Covers ('/' :: (source ++ '/' :: rest)) := by
        refine ⟨fun _ => hend, ?_⟩
        rw [hslash]
        exact covers_append_iff.2 ⟨hcovers, covers_slash (hstill hopen) hrest⟩
      rw [scan_of_covers hbehind]
      exact Or.inl rfl

/-- Behind a source that covers its slashes, the reader stops at once or goes on behind the
slash. -/
theorem scanPattern_covers_slash (h : Covers {} s) (rest : List Char) :
    scanPattern false (s ++ '/' :: rest) =
      if (after {} s).isOpen then
        (((after {} s).next '/').scan rest).map fun (a, b) => (s ++ '/' :: a, b)
      else some (s, rest) := by
  rw [scanPattern_eq_scan, scan_append h]
  split
  · rename_i hopen
    rw [scan_cons fun _ => hopen, Option.map_map]
    rfl
  · rename_i hclosed
    rw [scan_slash (Bool.not_eq_true _ ▸ hclosed)]
    simp

/-- The slash behind the source ends the literal exactly if the source leaves it closed. -/
theorem scanPattern_eq_some_iff (h : Covers {} s) (rest : List Char) :
    scanPattern false (s ++ '/' :: rest) = some (s, rest) ↔ (after {} s).isOpen = false := by
  rw [scanPattern_covers_slash h]
  split
  · rename_i hopen
    rw [hopen]
    refine iff_of_false (fun hstop => ?_) (fun hclosed => Bool.false_ne_true hclosed.symm)
    obtain ⟨⟨a, b⟩, -, heq⟩ := Option.map_eq_some_iff.1 hstop
    simp at heq
  · rename_i hclosed
    exact iff_of_true rfl (Bool.not_eq_true _ ▸ hclosed)

/-- **What covers its slashes is a literal exactly if a slash behind it ends it.** -/
theorem isLiteral_iff {p : Pattern} (h : Covers {} p.source.toList) :
    p.IsLiteral ↔ ¬ IsUnended p.source := by
  rw [Pattern.IsLiteral, scanPattern_eq_some_iff h, IsUnended, not_or, Bool.not_eq_true, ofSource]

/-! ### Escaped sources -/

theorem toList_escapeSlashes (source : String) :
    (escapeSlashes source).toList = escapeSlashesFrom false false source.toList :=
  String.toList_ofList

theorem covers_escapeSlashes (source : String) : Covers {} (escapeSlashes source).toList := by
  rw [toList_escapeSlashes]
  exact covers_escapeSlashesFrom {} source.toList

theorem after_escapeSlashes (source : String) :
    after {} (escapeSlashes source).toList = ofSource source := by
  rw [toList_escapeSlashes]
  exact after_escapeSlashesFrom {} source.toList

theorem isUnended_escapeSlashes_iff {source : String} :
    IsUnended (escapeSlashes source) ↔ IsUnended source := by
  have hempty : escapeSlashes source = "" ↔ source = "" := by
    rw [← String.toList_eq_nil_iff, toList_escapeSlashes, ← String.toList_eq_nil_iff (b := source)]
    exact escapeSlashesFrom_eq_nil_iff {}
  have hstate : ofSource (escapeSlashes source) = ofSource source := after_escapeSlashes source
  rw [IsUnended, IsUnended, hempty, hstate]

end PostFilter.Pattern.LiteralState
