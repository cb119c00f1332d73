import Mathlib.Order.Bounds.Basic
import PostFilter.Proofs.Text.Bytes
import PostFilter.Text.Locating

/-!
# Text — positions are exact

The front of a text that ends at a boundary is made of whole lines and the beginning of one more
(`IsLines`). From these its position can be told (`IsLines.behind`), and so can the lines of the
text that it is the front of (`IsLines.splitLines_append`). A longer front has a later position
(`before_behind_append`).

The same lines are met when the text is searched byte by byte, since a byte of a line feed is a line
feed and no other character has such a byte.
-/

namespace PostFilter.Text

/-! ### Fronts -/

theorem frontWithin_append_of_le {front : List Char} {n : Nat} (h : byteLength front ≤ n)
    (rest : List Char) :
    frontWithin n (front ++ rest) = front ++ frontWithin (n - byteLength front) rest := by
  induction front generalizing n with
  | nil => rfl
  | cons c front ih =>
      rw [byteLength_cons] at h ⊢
      have hfits : c.utf8Size ≤ n := Nat.le_trans (Nat.le_add_right ..) h
      rw [List.cons_append, frontWithin, if_pos hfits, ih (by omega), Nat.sub_sub]
      rfl

theorem frontWithin_zero (s : List Char) : frontWithin 0 s = [] := by
  cases s with
  | nil => rfl
  | cons c s => exact if_neg (Nat.not_le.2 c.utf8Size_pos)

theorem frontWithin_append (front rest : List Char) :
    frontWithin (byteLength front) (front ++ rest) = front := by
  rw [frontWithin_append_of_le (Nat.le_refl _), Nat.sub_self, frontWithin_zero, List.append_nil]

theorem byteLength_frontWithin_le (n : Nat) (s : List Char) : byteLength (frontWithin n s) ≤ n := by
  induction s generalizing n with
  | nil => exact Nat.zero_le n
  | cons c s ih =>
      rw [frontWithin]
      split
      · have := ih (n - c.utf8Size)
        rw [byteLength_cons]
        omega
      · exact Nat.zero_le n

theorem frontWithin_prefix (n : Nat) (s : List Char) : ∃ rest, s = frontWithin n s ++ rest := by
  induction s generalizing n with
  | nil => exact ⟨[], rfl⟩
  | cons c s ih =>
      rw [frontWithin]
      split
      · obtain ⟨rest, hrest⟩ := ih (n - c.utf8Size)
        exact ⟨rest, congrArg (c :: ·) hrest⟩
      · exact ⟨c :: s, rfl⟩

/-- The boundaries of a text that are not behind an offset, nor behind the end of the text. -/
def boundariesWithin (s : List Char) (offset : Nat) : Set Nat :=
  {k | isBoundary s k = true ∧ k ≤ min offset (byteLength s)}

/-- A front ends at the greatest boundary that it may. -/
theorem isGreatest_frontWithin (s : List Char) (offset : Nat) :
    IsGreatest (boundariesWithin s offset) (byteLength (frontWithin offset s)) := by
  obtain ⟨rest, hrest⟩ := frontWithin_prefix offset s
  have hat : At s (byteLength (frontWithin offset s)) rest := ⟨_, hrest, rfl⟩
  refine ⟨⟨isBoundary_iff.2 ⟨rest, hat⟩, Nat.le_min.2 ⟨byteLength_frontWithin_le offset s, hat.le⟩⟩,
    fun k ⟨hk, hle⟩ => ?_⟩
  obtain ⟨rest, front, rfl, rfl⟩ := isBoundary_iff.1 hk
  rw [frontWithin_append_of_le (Nat.le_trans hle (Nat.min_le_left ..)), byteLength_append]
  exact Nat.le_add_right ..

theorem isGreatest_boundaryBefore (s : List Char) (n : Nat) :
    IsGreatest {k | isBoundary s k = true ∧ k ≤ n} (boundaryBefore s n) := by
  induction n with
  | zero => exact ⟨⟨isBoundary_iff.2 ⟨s, at_zero s⟩, Nat.le_refl 0⟩, fun _ h => h.2⟩
  | succ n ih =>
      rw [boundaryBefore]
      split
      · rename_i h
        exact ⟨⟨h, Nat.le_refl _⟩, fun _ h => h.2⟩
      · rename_i h
        refine ⟨⟨ih.1.1, Nat.le_succ_of_le ih.1.2⟩, fun k ⟨hk, hle⟩ => ih.2 ⟨hk, ?_⟩⟩
        refine Nat.le_of_lt_succ (Nat.lt_of_le_of_ne hle ?_)
        rintro rfl
        exact h hk

theorem boundaryBefore_eq (s : List Char) (offset : Nat) :
    boundaryBefore s (min offset (byteLength s)) = byteLength (frontWithin offset s) :=
  (isGreatest_boundaryBefore s _).unique (isGreatest_frontWithin s offset)

/-! ### Lines -/

/-- Whether a text is whole lines and the beginning of one more. -/
structure IsLines (s : List Char) (lines : List (List Char)) (last : List Char) : Prop where
  eq : s = joinLines lines ++ last
  lines : ∀ line ∈ lines, '\n' ∉ line
  last : '\n' ∉ last

theorem joinLines_cons (line : List Char) (lines : List (List Char)) :
    joinLines (line :: lines) = line ++ '\n' :: joinLines lines := by
  rw [joinLines, List.flatMap_cons, List.append_assoc]
  rfl

theorem exists_isLines (s : List Char) : ∃ lines last, IsLines s lines last := by
  induction s with
  | nil => exact ⟨[], [], rfl, List.forall_mem_nil _, List.not_mem_nil⟩
  | cons c s ih =>
      obtain ⟨lines, last, rfl, hlines, hlast⟩ := ih
      by_cases hc : c = '\n'
      · subst hc
        exact ⟨[] :: lines, last, rfl, List.forall_mem_cons.2 ⟨List.not_mem_nil, hlines⟩, hlast⟩
      have hnot {line : List Char} (h : '\n' ∉ line) : '\n' ∉ c :: line :=
        List.not_mem_cons_of_ne_of_not_mem (Ne.symm hc) h
      cases lines with
      | nil => exact ⟨[], c :: last, rfl, hlines, hnot hlast⟩
      | cons line lines =>
          obtain ⟨hline, hlines⟩ := List.forall_mem_cons.1 hlines
          refine ⟨(c :: line) :: lines, last, ?_, List.forall_mem_cons.2 ⟨hnot hline, hlines⟩,
            hlast⟩
          rw [joinLines_cons, joinLines_cons]
          rfl

theorem beq_lineFeed_eq_false {s : List Char} (h : '\n' ∉ s) : ∀ c ∈ s, (c == '\n') = false :=
  fun _ hc => beq_eq_false_iff_ne.2 fun heq => h (heq ▸ hc)

theorem bne_lineFeed {s : List Char} (h : '\n' ∉ s) : ∀ c ∈ s, (c != '\n') = true :=
  fun c hc => by rw [bne, beq_lineFeed_eq_false h c hc]; rfl

theorem splitLines_joinLines_append {lines : List (List Char)} (h : ∀ line ∈ lines, '\n' ∉ line)
    (s : List Char) : splitLines (joinLines lines ++ s) = lines ++ splitLines s := by
  induction lines with
  | nil => rfl
  | cons line lines ih =>
      obtain ⟨hline, hlines⟩ := List.forall_mem_cons.1 h
      rw [joinLines_cons, List.append_assoc, List.cons_append, splitLines,
        splitAll_append rfl (beq_lineFeed_eq_false hline), ← splitLines, ih hlines]
      rfl

/-- The first line of a text is what stands before its first line feed. -/
theorem splitLines_eq_cons {last : List Char} (h : '\n' ∉ last) (rest : List Char) :
    ∃ more, splitLines (last ++ rest) = (last ++ rest.takeWhile (· != '\n')) :: more := by
  have hline : '\n' ∉ last ++ rest.takeWhile (· != '\n') := by
    intro hmem
    rcases List.mem_append.1 hmem with hmem | hmem
    · exact h hmem
    · exact absurd (List.mem_takeWhile_imp hmem) (by decide)
  have hsplit : last ++ rest =
      (last ++ rest.takeWhile (· != '\n')) ++ rest.dropWhile (· != '\n') := by
    rw [List.append_assoc, List.takeWhile_append_dropWhile]
  rw [splitLines, hsplit]
  cases hrest : rest.dropWhile (· != '\n') with
  | nil => exact ⟨[], by rw [List.append_nil, splitAll_eq_singleton (beq_lineFeed_eq_false hline)]⟩
  | cons c more =>
      have hc : (c != '\n') = false := stops_dropWhile (· != '\n') rest c (by rw [hrest]; rfl)
      exact ⟨_, splitAll_append (by simpa using hc) (beq_lineFeed_eq_false hline)⟩

theorem joinLines_append (lines lines' : List (List Char)) :
    joinLines (lines ++ lines') = joinLines lines ++ joinLines lines' := List.flatMap_append

/-- Behind whole lines a new one begins. -/
theorem stops_reverse_joinLines (lines : List (List Char)) :
    Stops (· != '\n') (joinLines lines).reverse := by
  rcases List.eq_nil_or_concat lines with rfl | ⟨lines, line, rfl⟩
  · exact stops_nil
  · have hend : (joinLines (lines ++ [line])).reverse =
        '\n' :: (joinLines lines ++ line).reverse := by
      simp [joinLines]
    rw [List.concat_eq_append, hend]
    exact stops_cons rfl

namespace IsLines

variable {s last : List Char} {lines : List (List Char)}

theorem takeWhile_reverse (h : IsLines s lines last) :
    s.reverse.takeWhile (· != '\n') = last.reverse := by
  rw [h.eq, List.reverse_append]
  exact takeWhile_append_of_stops (stops_reverse_joinLines lines)
    fun c hc => bne_lineFeed h.last c (List.mem_reverse.1 hc)

theorem count_lineFeed (h : IsLines s lines last) : s.count '\n' = lines.length := by
  obtain ⟨rfl, hlines, hlast⟩ := h
  rw [List.count_append, List.count_eq_zero.2 hlast]
  induction lines with
  | nil => rfl
  | cons line lines ih =>
      obtain ⟨hline, hlines⟩ := List.forall_mem_cons.1 hlines
      rw [joinLines_cons, List.count_append, List.count_eq_zero.2 hline, List.count_cons_self,
        List.length_cons, ← ih hlines]
      omega

/-- The position behind whole lines and the beginning of one more. -/
theorem behind (h : IsLines s lines last) :
    Position.behind s = ⟨byteLength s, lines.length + 1, last.length + 1⟩ := by
  rw [Position.behind, h.count_lineFeed, h.takeWhile_reverse, List.length_reverse]

/-- The lines of a text that begins with some lines and the beginning of one more. -/
theorem splitLines_append (h : IsLines s lines last) (rest : List Char) :
    ∃ more, splitLines (s ++ rest) = lines ++ (last ++ rest.takeWhile (· != '\n')) :: more := by
  obtain ⟨more, hmore⟩ := splitLines_eq_cons h.last rest
  exact ⟨more, by rw [h.eq, List.append_assoc, splitLines_joinLines_append h.lines, hmore]⟩

end IsLines

/-- A line of a text stands behind the lines before it. -/
theorem eq_of_splitLines {s line : List Char} {before after : List (List Char)}
    (h : splitLines s = before ++ line :: after) :
    (∀ l ∈ before, '\n' ∉ l) ∧ '\n' ∉ line ∧ ∃ rest, s = joinLines before ++ (line ++ rest) := by
  obtain ⟨lines, last, rfl, hlines, hlast⟩ := exists_isLines s
  rw [splitLines_joinLines_append hlines, splitLines,
    splitAll_eq_singleton (beq_lineFeed_eq_false hlast)] at h
  have hall : ∀ l ∈ before ++ line :: after, '\n' ∉ l :=
    h ▸ List.forall_mem_append.2 ⟨hlines, List.forall_mem_singleton.2 hlast⟩
  obtain ⟨hbefore, hrest⟩ := List.forall_mem_append.1 hall
  refine ⟨hbefore, (List.forall_mem_cons.1 hrest).1, ?_⟩
  rcases List.append_eq_append_iff.1 h with ⟨more, rfl, hmore⟩ | ⟨more, rfl, hmore⟩
  · -- The line is the last one.
    obtain ⟨rfl, hmore⟩ | ⟨-, hmore⟩ := List.singleton_eq_append_iff.1 hmore
    · cases hmore
      exact ⟨[], by rw [List.append_nil, List.append_nil]⟩
    · cases hmore
  · cases more with
    | nil =>
        cases hmore
        exact ⟨[], by rw [List.append_nil, List.append_nil]⟩
    | cons l more =>
        cases hmore
        exact ⟨'\n' :: (joinLines more ++ last), by
          rw [joinLines_append, joinLines_cons]; simp only [List.append_assoc, List.cons_append]⟩

/-! ### Positions and offsets -/

namespace Position

variable {s : String} {k : Nat}

/-- **The position at the column of a line.** -/
theorem atOffset_of_splitLines {before after : List (List Char)} {text : List Char}
    (h : splitLines s.toList = before ++ text :: after) {c : Nat} (hc : c ≤ text.length) :
    atOffset s (byteLength (joinLines before ++ text.take c)) =
      ⟨byteLength (joinLines before ++ text.take c), before.length + 1, c + 1⟩ := by
  obtain ⟨hbefore, htext, rest, hs⟩ := eq_of_splitLines h
  have hfront : s.toList = joinLines before ++ text.take c ++ (text.drop c ++ rest) := by
    rw [List.append_assoc, ← List.append_assoc (text.take c), List.take_append_drop, hs]
  have hlines : IsLines (joinLines before ++ text.take c) before (text.take c) :=
    ⟨rfl, hbefore, fun hmem => htext (List.mem_of_mem_take hmem)⟩
  rw [atOffset, hfront, frontWithin_append, hlines.behind, List.length_take, Nat.min_eq_left hc]

/-- A line and a column lead to an offset if the text has that line, and it has that column. -/
theorem offset?_eq_some_iff {line column : Nat} :
    offset? s line column = some k ↔ ∃ before text after c,
      splitLines s.toList = before ++ text :: after ∧ c ≤ text.length ∧
      k = byteLength (joinLines before ++ text.take c) ∧ line = before.length + 1 ∧
      column = c + 1 := by
  constructor
  · intro h
    match line, column with
    | 0, _ | _ + 1, 0 => cases h
    | l + 1, c + 1 =>
        obtain ⟨text, htext, rfl⟩ := Option.map_eq_some_iff.1 h
        obtain ⟨hget, hc⟩ := Option.filter_eq_some_iff.1 htext
        obtain ⟨hl, htext⟩ := List.getElem?_eq_some_iff.1 hget
        refine ⟨(splitLines s.toList).take l, text, (splitLines s.toList).drop (l + 1), c, ?_,
          of_decide_eq_true hc, rfl, ?_, rfl⟩
        · rw [← htext, List.getElem_cons_drop, List.take_append_drop]
        · rw [List.length_take, Nat.min_eq_left (Nat.le_of_lt hl)]
  · rintro ⟨before, text, after, c, h, hc, rfl, rfl, rfl⟩
    have hget : (splitLines s.toList)[before.length]? = some text := by
      rw [h, List.getElem?_append_right (Nat.le_refl _), Nat.sub_self]
      rfl
    have htake : (splitLines s.toList).take before.length = before := by
      rw [h, List.take_left]
    simp only [offset?, hget, htake, Option.filter_some, hc, decide_true, if_true, Option.map_some]

/-- **A line and a column lead back to the offset of which they are the position.** -/
theorem offset?_eq_some_iff_atOffset {line column : Nat} :
    offset? s line column = some k ↔ atOffset s k = ⟨k, line, column⟩ := by
  rw [offset?_eq_some_iff]
  constructor
  · rintro ⟨before, text, after, c, h, hc, rfl, rfl, rfl⟩
    exact atOffset_of_splitLines h hc
  · intro h
    obtain ⟨rest, hs⟩ := frontWithin_prefix k s.toList
    obtain ⟨lines, last, hlines⟩ := exists_isLines (frontWithin k s.toList)
    obtain ⟨more, hmore⟩ := hlines.splitLines_append rest
    rw [← hs] at hmore
    rw [atOffset, hlines.behind] at h
    obtain ⟨hk, rfl, rfl⟩ := Position.mk.inj h
    refine ⟨lines, _, more, last.length, hmore, ?_, ?_, rfl, rfl⟩
    · rw [List.length_append]
      exact Nat.le_add_right ..
    · rw [List.take_left, ← hlines.eq, hk]

/-! ### Order -/

/-- What stands behind a longer front is later. -/
theorem isBefore_behind_append (front : List Char) {more : List Char} (h : more ≠ []) :
    (behind front).IsBefore (behind (front ++ more)) := by
  rw [IsBefore, behind, behind, List.count_append, List.reverse_append]
  by_cases hline : '\n' ∈ more
  · have hpos := List.count_pos_iff.2 hline
    left
    dsimp only
    omega
  · have hlength := List.length_pos_iff.2 h
    right
    rw [List.takeWhile_append_of_pos fun c hc => bne_lineFeed hline c (List.mem_reverse.1 hc),
      List.count_eq_zero.2 hline, List.length_append, List.length_reverse]
    dsimp only
    omega

/-- Of two fronts of a text one goes on where the other one ends. -/
theorem fronts_cases {front front' rest rest' : List Char}
    (h : front ++ rest = front' ++ rest') :
    front = front' ∨ (∃ more, more ≠ [] ∧ front' = front ++ more) ∨
      ∃ more, more ≠ [] ∧ front = front' ++ more := by
  rcases List.append_eq_append_iff.1 h with ⟨more, hmore, -⟩ | ⟨more, hmore, -⟩
  · by_cases hnil : more = []
    · exact Or.inl (by rw [hmore, hnil, List.append_nil])
    · exact Or.inr (Or.inl ⟨more, hnil, hmore⟩)
  · by_cases hnil : more = []
    · exact Or.inl (by rw [hmore, hnil, List.append_nil])
    · exact Or.inr (Or.inr ⟨more, hnil, hmore⟩)

/-- **Positions are ordered as their offsets are.** -/
theorem isBefore_atOffset_iff (s : String) (offset later : Nat) :
    (atOffset s offset).IsBefore (atOffset s later) ↔
      (atOffset s offset).offset < (atOffset s later).offset := by
  obtain ⟨rest, hs⟩ := frontWithin_prefix offset s.toList
  obtain ⟨rest', hs'⟩ := frontWithin_prefix later s.toList
  have hlt (front : List Char) {more : List Char} (h : more ≠ []) :
      (behind front).offset < (behind (front ++ more)).offset := by
    have := byteLength_pos h
    rw [behind, behind, byteLength_append]
    dsimp only
    omega
  rw [atOffset, atOffset]
  rcases fronts_cases (hs.symm.trans hs') with heq | ⟨more, hne, heq⟩ | ⟨more, hne, heq⟩
  · rw [heq]
    exact iff_of_false (fun h => by rw [IsBefore] at h; omega) (Nat.lt_irrefl _)
  · rw [heq]
    exact iff_of_true (isBefore_behind_append _ hne) (hlt _ hne)
  · have hbefore := isBefore_behind_append (frontWithin later s.toList) hne
    have hoffset := hlt (frontWithin later s.toList) hne
    rw [heq]
    exact iff_of_false (fun h => by rw [IsBefore] at h hbefore; omega) (by omega)

/-- The line of an offset that is inside a line, or at its end. -/
theorem line_atOffset {before after : List (List Char)} {text : List Char}
    (h : splitLines s.toList = before ++ text :: after)
    (hstart : byteLength (joinLines before) ≤ k)
    (hend : k ≤ byteLength (joinLines before ++ text)) :
    (atOffset s k).line = before.length + 1 := by
  have hfirst := atOffset_of_splitLines h (Nat.zero_le _)
  have hlast := atOffset_of_splitLines h (Nat.le_refl _)
  rw [List.take_zero, List.append_nil] at hfirst
  rw [List.take_length] at hlast
  have hgreatest : IsGreatest (boundariesWithin s.toList k) (atOffset s k).offset :=
    isGreatest_frontWithin s.toList k
  obtain ⟨-, -, rest, hs⟩ := eq_of_splitLines h
  have hboundary : byteLength (joinLines before) ∈ boundariesWithin s.toList k := by
    have hat : At s.toList (byteLength (joinLines before)) (text ++ rest) := ⟨_, hs, rfl⟩
    exact ⟨isBoundary_iff.2 ⟨_, hat⟩, Nat.le_min.2 ⟨hstart, hat.le⟩⟩
  have hle := hgreatest.2 hboundary
  have hge := Nat.le_trans (Nat.le_trans hgreatest.1.2 (Nat.min_le_left ..)) hend
  -- The position is not before the first one of the line, and not behind the last one.
  have hnotBefore := mt (isBefore_atOffset_iff s k (byteLength (joinLines before))).1
    (by rw [hfirst]; exact Nat.not_lt.2 hle)
  have hnotBehind := mt (isBefore_atOffset_iff s (byteLength (joinLines before ++ text)) k).1
    (by rw [hlast]; exact Nat.not_lt.2 hge)
  rw [hfirst, IsBefore] at hnotBefore
  rw [hlast, IsBefore] at hnotBehind
  dsimp only at hnotBefore hnotBehind
  omega

end Position

/-! ### Lines of offsets -/

/-- What is trimmed off a line is carriage returns, and none is left at its end. -/
theorem trimReturns_spec (line : List Char) :
    (∃ n, line = trimReturns line ++ List.replicate n '\r') ∧
      (trimReturns line).getLast? ≠ some '\r' := by
  have hsplit : line.reverse.takeWhile (· == '\r') ++ line.reverse.dropWhile (· == '\r') =
      line.reverse := List.takeWhile_append_dropWhile
  have hreturns : (line.reverse.takeWhile (· == '\r')).reverse =
      List.replicate (line.reverse.takeWhile (· == '\r')).length '\r' := by
    rw [← List.length_reverse]
    refine List.eq_replicate_of_mem fun c hc => ?_
    have hreturn := List.mem_takeWhile_imp (List.mem_reverse.1 hc)
    exact eq_of_beq hreturn
  refine ⟨⟨(line.reverse.takeWhile (· == '\r')).length, ?_⟩, ?_⟩
  · rw [← hreturns, trimReturns, ← List.reverse_append, hsplit, List.reverse_reverse]
  · rw [trimReturns, List.getLast?_reverse]
    intro h
    exact absurd (stops_dropWhile (· == '\r') line.reverse _ h) (by decide)

/-- The line of an offset, from the front that ends there and what is behind it. -/
theorem lineAt_of_isLines {s : String} {offset : Nat} {rest last : List Char}
    {lines : List (List Char)} (hs : s.toList = frontWithin offset s.toList ++ rest)
    (hlines : IsLines (frontWithin offset s.toList) lines last) :
    lineAt s offset = String.ofList (trimReturns (last ++ rest.takeWhile (· != '\n'))) := by
  have hdrop : s.toList.drop (frontWithin offset s.toList).length = rest := by
    have hrest := congrArg (List.drop (frontWithin offset s.toList).length) hs
    rwa [List.drop_left] at hrest
  rw [lineAt, hlines.takeWhile_reverse, List.reverse_reverse, hdrop]
  rfl

/-- **The line of an offset is that of its position**, without the carriage returns at its end. -/
theorem exists_lineAt (s : String) (offset : Nat) : ∃ line n,
    (splitLines s.toList)[(Position.atOffset s offset).line - 1]? = some line ∧
      line = (lineAt s offset).toList ++ List.replicate n '\r' ∧
      (lineAt s offset).toList.getLast? ≠ some '\r' := by
  obtain ⟨rest, hs⟩ := frontWithin_prefix offset s.toList
  obtain ⟨lines, last, hlines⟩ := exists_isLines (frontWithin offset s.toList)
  obtain ⟨more, hmore⟩ := hlines.splitLines_append rest
  obtain ⟨⟨n, hn⟩, hlast⟩ := trimReturns_spec (last ++ rest.takeWhile (· != '\n'))
  have hline : (splitLines s.toList)[(Position.atOffset s offset).line - 1]? =
      some (last ++ rest.takeWhile (· != '\n')) := by
    rw [← hs] at hmore
    rw [Position.atOffset, hlines.behind, hmore, Nat.add_sub_cancel,
      List.getElem?_append_right (Nat.le_refl _), Nat.sub_self]
    rfl
  rw [lineAt_of_isLines hs hlines, String.toList_ofList]
  exact ⟨_, n, hline, hn, hlast⟩

/-! ### By the bytes -/

/-- A byte of a character is a line feed if the character is one. -/
theorem beq_lineFeed_of_mem {c : Char} {b : UInt8} (hb : b ∈ String.utf8EncodeChar c) :
    (Char.ofUInt8 b == '\n') = (c == '\n') :=
  (alike_of_mem_utf8EncodeChar hb).beq '\n' (by decide)

/-- The bytes of characters that are no line feeds are none. -/
theorem bne_lineFeed_of_mem_utf8 {s : List Char} (h : '\n' ∉ s) {b : UInt8} (hb : b ∈ utf8 s) :
    (Char.ofUInt8 b != '\n') = true := by
  obtain ⟨c, hc, hb⟩ := List.mem_flatMap.1 hb
  rw [bne, beq_lineFeed_of_mem hb, beq_lineFeed_eq_false h c hc]
  rfl

theorem countP_utf8 (s : List Char) :
    ((utf8 s).countP fun b => Char.ofUInt8 b == '\n') = s.count '\n' := by
  induction s with
  | nil => rfl
  | cons c s ih =>
      rw [utf8_cons, List.countP_append, ih, List.count_cons, Nat.add_comm]
      congr 1
      split
      · rename_i hc
        rw [eq_of_beq hc]
        decide
      · rename_i hc
        exact List.countP_eq_zero.2 fun b hb => by rwa [beq_lineFeed_of_mem hb]

/-- Behind whole lines a new one begins, by the bytes too. -/
theorem takeWhile_reverse_utf8_joinLines (lines : List (List Char)) :
    ((utf8 (joinLines lines)).reverse.takeWhile fun b => Char.ofUInt8 b != '\n') = [] := by
  rcases List.eq_nil_or_concat lines with rfl | ⟨lines, line, rfl⟩
  · rfl
  · have hend : (utf8 (joinLines (lines ++ [line]))).reverse =
        10 :: (utf8 (joinLines lines ++ line)).reverse := by
      have hjoin : joinLines (lines ++ [line]) = joinLines lines ++ line ++ ['\n'] := by
        simp [joinLines]
      rw [hjoin, utf8_append, List.reverse_append]
      rfl
    rw [List.concat_eq_append, hend]
    rfl

section Bytes

variable {s front rest : List Char} (h : s = front ++ rest)
include h

theorem take_utf8 : (utf8 s).take (byteLength front) = utf8 front := by
  rw [h, utf8_append, ← length_utf8, List.take_left]

/-- The line feeds before an offset are those of the characters before it. -/
theorem lineFeedsBefore_eq : lineFeedsBefore s (byteLength front) = front.count '\n' := by
  rw [lineFeedsBefore, take_utf8 h, countP_utf8]

theorem lineStart_eq {lines : List (List Char)} {last : List Char}
    (hlines : IsLines front lines last) :
    lineStart s (byteLength front) = byteLength (joinLines lines) := by
  have hrun : ((utf8 front).reverse.takeWhile fun b => Char.ofUInt8 b != '\n') =
      (utf8 last).reverse := by
    rw [hlines.eq, utf8_append, List.reverse_append, List.takeWhile_append_of_pos,
      takeWhile_reverse_utf8_joinLines, List.append_nil]
    exact fun b hb => bne_lineFeed_of_mem_utf8 hlines.last (List.mem_reverse.1 hb)
  rw [lineStart, take_utf8 h, hrun, List.length_reverse, length_utf8, hlines.eq,
    byteLength_append, Nat.add_sub_cancel]

theorem lineEnd_eq : lineEnd s (byteLength front) =
    byteLength (front ++ rest.takeWhile (· != '\n')) := by
  have hat : At s (byteLength front) rest := ⟨front, h, rfl⟩
  have htest : IsAsciiTest (· != '\n') := (isAsciiTest_beq (by decide)).not
  have hend := runEnd_of_at hat htest
  have hle := (at_runEnd hat htest).le
  rw [byteLength_append, ← hend, lineEnd, findByte?]
  split
  · rfl
  · exact Nat.le_antisymm (Nat.not_lt.1 ‹_›) hle

end Bytes

theorem between?_eq (front part rest : List Char) :
    between? (front ++ (part ++ rest)) (byteLength front) (byteLength (front ++ part)) =
      some part := by
  have hfront : splitBytes? (byteLength front) (front ++ (part ++ rest)) =
      some (front, part ++ rest) := splitBytes?_eq_some_iff.2 ⟨rfl, rfl⟩
  have hpart : splitBytes? (byteLength part) (part ++ rest) = some (part, rest) :=
    splitBytes?_eq_some_iff.2 ⟨rfl, rfl⟩
  rw [between?, byteLength_append, if_pos (Nat.le_add_right ..), hfront, Nat.add_sub_cancel_left]
  exact congrArg (Option.map Prod.fst) hpart

/-- **A position is found by the bytes of the text.** -/
theorem locate?_eq (s : String) (offset : Nat) :
    Position.locate? s offset = some (Position.atOffset s offset) := by
  obtain ⟨rest, hs⟩ := frontWithin_prefix offset s.toList
  obtain ⟨lines, last, hlines⟩ := exists_isLines (frontWithin offset s.toList)
  have hbetween : between? s.toList (byteLength (joinLines lines))
      (byteLength (frontWithin offset s.toList)) = some last := by
    have hcut := between?_eq (joinLines lines) last rest
    rwa [← List.append_assoc, ← hlines.eq, ← hs] at hcut
  rw [Position.locate?, boundaryBefore_eq, lineStart_eq hs hlines, hbetween, lineFeedsBefore_eq hs,
    hlines.count_lineFeed, Position.atOffset, hlines.behind]
  rfl

/-- **A line is found by the bytes of the text.** -/
theorem locateLine?_eq (s : String) (offset : Nat) :
    locateLine? s offset = some (lineAt s offset) := by
  obtain ⟨rest, hs⟩ := frontWithin_prefix offset s.toList
  obtain ⟨lines, last, hlines⟩ := exists_isLines (frontWithin offset s.toList)
  have hbetween : between? s.toList (byteLength (joinLines lines))
      (byteLength (frontWithin offset s.toList ++ rest.takeWhile (· != '\n'))) =
      some (last ++ rest.takeWhile (· != '\n')) := by
    have hcut := between?_eq (joinLines lines) (last ++ rest.takeWhile (· != '\n'))
      (rest.dropWhile (· != '\n'))
    rwa [List.append_assoc last, List.takeWhile_append_dropWhile, ← List.append_assoc,
      ← List.append_assoc, ← hlines.eq, ← hs] at hcut
  rw [locateLine?, boundaryBefore_eq, lineStart_eq hs hlines, lineEnd_eq hs, hbetween,
    lineAt_of_isLines hs hlines]
  rfl

/-! ### Exactness -/

/-- **Positions are exact and can be undone.** The position at an offset is that of the greatest
boundary that is not behind the offset, in the text or at its end; the column of its line leads back
to that boundary. A line and a column lead to a boundary only if they are its position, and of two
boundaries the one in front has the lesser line, or the lesser column of one line. The line that is
shown for an offset is the line of its position without the carriage returns at its end; an offset
from the start of a line to its line feed, or to the end of the text, has a position in that line.
All of this is found by the bytes of the text, which is never cut inside a character. -/
theorem atOffset_exact (s : String) (offset : Nat) :
    IsGreatest (boundariesWithin s.toList offset) (Position.atOffset s offset).offset ∧
    Position.offset? s (Position.atOffset s offset).line (Position.atOffset s offset).column =
      some (Position.atOffset s offset).offset ∧
    (∀ line column k, Position.offset? s line column = some k ↔
      Position.atOffset s k = ⟨k, line, column⟩) ∧
    (∀ later, (Position.atOffset s offset).IsBefore (Position.atOffset s later) ↔
      (Position.atOffset s offset).offset < (Position.atOffset s later).offset) ∧
    (∃ line n, (splitLines s.toList)[(Position.atOffset s offset).line - 1]? = some line ∧
      line = (lineAt s offset).toList ++ List.replicate n '\r' ∧
      (lineAt s offset).toList.getLast? ≠ some '\r') ∧
    (∀ before line after, splitLines s.toList = before ++ line :: after →
      byteLength (joinLines before) ≤ offset →
      offset ≤ byteLength (joinLines before ++ line) →
      (Position.atOffset s offset).line = before.length + 1) ∧
    Position.locate? s offset = some (Position.atOffset s offset) ∧
    locateLine? s offset = some (lineAt s offset) := by
  have hgreatest : IsGreatest (boundariesWithin s.toList offset)
      (Position.atOffset s offset).offset := isGreatest_frontWithin s.toList offset
  have hp : Position.atOffset s (Position.atOffset s offset).offset =
      Position.atOffset s offset := by
    obtain ⟨rest, hs⟩ := frontWithin_prefix offset s.toList
    have hfront : frontWithin (Position.atOffset s offset).offset s.toList =
        frontWithin offset s.toList := by
      have hcut := frontWithin_append (frontWithin offset s.toList) rest
      rwa [← hs] at hcut
    exact congrArg Position.behind hfront
  exact ⟨hgreatest, Position.offset?_eq_some_iff_atOffset.2 hp,
    fun _ _ _ => Position.offset?_eq_some_iff_atOffset, Position.isBefore_atOffset_iff s offset,
    exists_lineAt s offset, fun _ _ _ => Position.line_atOffset, locate?_eq s offset,
    locateLine?_eq s offset⟩

/-- An offset inside the first character of the second line. -/
theorem atOffset_exact_of_umlaut :
    let s := "#op\r\nä | #op"
    let first := "#op\r".toList
    let second := "ä | #op".toList
    Position.atOffset s 5 = ⟨5, 2, 1⟩ ∧ Position.offset? s 2 1 = some 5 ∧
      splitLines s.toList = [first] ++ second :: [] ∧ byteLength (joinLines [first]) ≤ 6 ∧
      6 ≤ byteLength (joinLines [first] ++ second) ∧ (Position.atOffset s 6).line = 2 := by
  intro s first second
  obtain ⟨-, -, hback, -, -, hline, -⟩ := atOffset_exact s 6
  have hposition : Position.atOffset s 5 = ⟨5, 2, 1⟩ := by decide +kernel
  have hlines : splitLines s.toList = [first] ++ second :: [] := by decide +kernel
  have hstart : byteLength (joinLines [first]) ≤ 6 := by decide +kernel
  have hend : 6 ≤ byteLength (joinLines [first] ++ second) := by decide +kernel
  exact ⟨hposition, (hback 2 1 5).2 hposition, hlines, hstart, hend, hline _ _ _ hlines hstart hend⟩

end PostFilter.Text
