import Mathlib.Data.List.DropRight
import Mathlib.Data.List.Induction
import PostFilter.Proofs.Text.Positions
import PostFilter.Text.Lines
import PostFilter.Text.Words

/-!
# Text — lines without the blanks around them

The trimmed lines of a text are the parts between its line feeds, trimmed, without the empty ones at
the end (`trimmedLines_eq_rdropWhile`). It makes no difference to them what a line ends with
(`trimmedLines_eq_of_lines`), and of a text that is changed at the ends of its lines, at its own end
or in the order of its lines they are the same up to order (`Relined.perm_trimmedLines`).
-/

namespace PostFilter.Text

variable {s t front rest gap : List Char}

/-! ### Parts between line feeds -/

namespace IsLines

variable {parts : List (List Char)} {last : List Char}

theorem splitLines_eq (h : IsLines s parts last) : splitLines s = parts ++ [last] := by
  rw [h.eq, splitLines_joinLines_append h.lines, splitLines,
    splitAll_eq_singleton (beq_lineFeed_eq_false h.last)]

/-- A line feed ends the last part, and an empty one begins. -/
theorem lineFeed (h : IsLines s parts last) : IsLines (s ++ ['\n']) (parts ++ [last]) [] :=
  ⟨by rw [h.eq, joinLines_append]; simp [joinLines],
    List.forall_mem_append.2 ⟨h.lines, List.forall_mem_singleton.2 h.last⟩, List.not_mem_nil⟩

/-- Any other text goes on with the last part. -/
theorem append (h : IsLines s parts last) (ht : '\n' ∉ t) : IsLines (s ++ t) parts (last ++ t) :=
  ⟨by rw [h.eq, List.append_assoc], h.lines, fun hmem => (List.mem_append.1 hmem).elim h.last ht⟩

end IsLines

/-- The parts between the line feeds of a text, trimmed. -/
def trimmedParts (s : List Char) : List (List Char) := (splitLines s).map trimList

theorem IsLines.trimmedParts_eq {parts : List (List Char)} {last : List Char}
    (h : IsLines s parts last) : trimmedParts s = parts.map trimList ++ [trimList last] := by
  rw [trimmedParts, h.splitLines_eq, List.map_append, List.map_singleton]

/-- A text whose last character is not blank has a last part that is not empty. -/
theorem exists_trimmedParts_concat (s : List Char) {c : Char} (hc : isBlank c = false) :
    ∃ parts last, trimmedParts (s ++ [c]) = parts ++ [last] ∧ last ≠ [] := by
  obtain ⟨parts, last, hs⟩ := exists_isLines s
  have hfeed : '\n' ∉ [c] := by
    rw [List.mem_singleton]
    rintro rfl
    cases hc
  exact ⟨_, _, (hs.append hfeed).trimmedParts_eq, trimList_ne_nil (by simp) hc⟩

/-- Without the empty parts at their end, the parts are the trimmed lines. -/
theorem trimmedLines_eq_rdropWhile (s : List Char) :
    trimmedLines s = (trimmedParts s).rdropWhile List.isEmpty := by
  induction s using List.reverseRecOn with
  | nil => rfl
  | append_singleton s c ih =>
      by_cases hc : isBlank c = true
      · have htrim : trimmedLines (s ++ [c]) = trimmedLines s := by
          rw [trimmedLines, trimEnd_append s (List.forall_mem_singleton.2 hc), ← trimmedLines]
        obtain ⟨parts, last, hs⟩ := exists_isLines s
        rw [htrim, ih, hs.trimmedParts_eq]
        by_cases hfeed : c = '\n'
        · subst hfeed
          rw [hs.lineFeed.trimmedParts_eq, List.map_append]
          exact (List.rdropWhile_concat_pos _ _ _ rfl).symm
        · have hfeed : '\n' ∉ [c] := fun hmem => hfeed (List.mem_singleton.1 hmem).symm
          rw [(hs.append hfeed).trimmedParts_eq,
            trimList_append_right last (List.forall_mem_singleton.2 hc)]
      · -- The last part stays, and so do all others.
        have hc : isBlank c = false := Bool.not_eq_true _ ▸ hc
        have hlines : trimmedLines (s ++ [c]) = trimmedParts (s ++ [c]) := by
          rw [trimmedLines, trimEnd_append_cons hc s []]
          cases s <;> rfl
        obtain ⟨parts, last, hparts, hlast⟩ := exists_trimmedParts_concat s hc
        rw [hlines, hparts, List.rdropWhile_concat_neg _ _ _ (mt List.isEmpty_iff.1 hlast)]

theorem trimmedLines_eq_of_parts (h : trimmedParts s = trimmedParts t) :
    trimmedLines s = trimmedLines t := by
  rw [trimmedLines_eq_rdropWhile, trimmedLines_eq_rdropWhile, h]

/-! ### Lines -/

/-- A carriage return at the end of a line is one of the blanks there. -/
theorem trimList_append_return (line : List Char) : trimList (line ++ ['\r']) = trimList line :=
  trimList_append_right line (List.forall_mem_singleton.2 rfl)

theorem trimList_withoutReturn (line : List Char) :
    trimList (withoutReturn line) = trimList line := by
  rw [withoutReturn]
  split
  · rename_i h
    obtain ⟨before, rfl⟩ := List.getLast?_eq_some_iff.1 h
    rw [List.dropLast_concat]
    exact (trimList_append_return before).symm
  · rfl

theorem IsLines.lines_eq {parts : List (List Char)} {last : List Char}
    (h : IsLines s parts last) :
    Text.lines s = parts.map withoutReturn ++ if last.isEmpty then [] else [last] := by
  rw [Text.lines, h.splitLines_eq]
  clear h
  induction parts with
  | nil => rfl
  | cons part parts ih =>
      cases parts with
      | nil => rfl
      | cons next parts => exact congrArg (withoutReturn part :: ·) ih

/-- The lines, trimmed, are the trimmed parts without the last one if nothing stands there. -/
theorem map_trimList_lines (s : List Char) : ∃ parts last,
    trimmedParts s = parts ++ [trimList last] ∧
      (lines s).map trimList = parts ++ if last.isEmpty then [] else [trimList last] := by
  obtain ⟨parts, last, hs⟩ := exists_isLines s
  refine ⟨_, last, hs.trimmedParts_eq, ?_⟩
  have hparts : (parts.map withoutReturn).map trimList = parts.map trimList := by
    rw [List.map_map]
    exact List.map_congr_left fun line _ => trimList_withoutReturn line
  rw [hs.lines_eq, List.map_append, hparts]
  split <;> rfl

/-- What the lines end with does not matter. -/
theorem trimmedLines_eq_of_lines (s : List Char) :
    trimmedLines s = ((lines s).map trimList).rdropWhile List.isEmpty := by
  obtain ⟨parts, last, hparts, hlines⟩ := map_trimList_lines s
  rw [trimmedLines_eq_rdropWhile, hparts, hlines]
  split
  · rename_i hlast
    rw [List.isEmpty_iff.1 hlast, List.append_nil]
    exact List.rdropWhile_concat_pos _ _ _ rfl
  · rfl

/-- Lines none of which is blank are all kept. -/
theorem trimmedLines_of_solid (h : ∀ line ∈ lines s, ∃ c ∈ line, isBlank c = false) :
    trimmedLines s = (lines s).map trimList := by
  rw [trimmedLines_eq_of_lines, List.rdropWhile_eq_self_iff]
  intro hne
  obtain ⟨line, hline, heq⟩ := List.mem_map.1 (List.getLast_mem hne)
  obtain ⟨c, hc, hblank⟩ := h line hline
  rw [← heq, List.isEmpty_iff]
  exact trimList_ne_nil hc hblank

/-- **The lines up to the last character that is no blank, trimmed.** -/
theorem map_trimList_lines_trimEnd (s : List Char) :
    (lines (trimEnd s)).map trimList = trimmedLines s := by
  have htrim : trimmedLines s = trimmedLines (trimEnd s) := by
    rw [trimmedLines, trimmedLines, trimEnd_trimEnd]
  rw [htrim, trimmedLines_eq_rdropWhile]
  rcases List.eq_nil_or_concat (trimEnd s) with hnil | ⟨front, c, hconcat⟩
  · rw [hnil]
    rfl
  · have hc : isBlank c = false := by
      have hhead : (s.reverse.dropWhile isBlank).head? = some c := by
        rw [← List.getLast?_reverse, ← trimEnd, hconcat, List.concat_eq_append,
          List.getLast?_concat]
      exact stops_dropWhile isBlank s.reverse c hhead
    rw [hconcat, List.concat_eq_append]
    obtain ⟨parts, last, hparts, hlast⟩ := exists_trimmedParts_concat front hc
    obtain ⟨parts', last', hparts', hlines⟩ := map_trimList_lines (front ++ [c])
    have hlast' : trimList last' = last := by
      have heq := hparts'.symm.trans hparts
      exact (List.append_inj' heq rfl).2 |> List.cons.inj |>.1
    have hne : ¬ last'.isEmpty = true := by
      rw [List.isEmpty_iff]
      rintro rfl
      exact hlast hlast'.symm
    rw [hlines, if_neg hne, ← hparts', hparts,
      List.rdropWhile_concat_neg _ _ _ (mt List.isEmpty_iff.1 hlast)]

/-! ### Changes -/

theorem trimmedParts_joinLines_append {parts : List (List Char)}
    (h : ∀ part ∈ parts, '\n' ∉ part) (s : List Char) :
    trimmedParts (joinLines parts ++ s) = parts.map trimList ++ trimmedParts s := by
  rw [trimmedParts, splitLines_joinLines_append h, List.map_append, ← trimmedParts]

theorem IsGap.isBlank (h : IsGap gap) : ∀ c ∈ gap, Text.isBlank c = true := fun c hc => (h c hc).1

theorem IsGap.notMem (h : IsGap gap) : '\n' ∉ gap := fun hmem => (h _ hmem).2 rfl

theorem trimmedParts_indent (hgap : IsGap gap) (s : List Char) :
    trimmedParts (gap ++ s) = trimmedParts s := by
  obtain ⟨parts, last, hs⟩ := exists_isLines s
  cases parts with
  | nil =>
      have hgaps : IsLines (gap ++ s) [] (gap ++ last) :=
        ⟨congrArg (gap ++ ·) hs.eq, List.forall_mem_nil _,
          fun hmem => (List.mem_append.1 hmem).elim hgap.notMem hs.last⟩
      rw [hgaps.trimmedParts_eq, hs.trimmedParts_eq, trimList_append_left hgap.isBlank]
  | cons part parts =>
      obtain ⟨hpart, hparts⟩ := List.forall_mem_cons.1 hs.lines
      have hgaps : IsLines (gap ++ s) ((gap ++ part) :: parts) last :=
        ⟨by rw [hs.eq, joinLines_cons, joinLines_cons]; simp only [List.append_assoc,
            List.cons_append],
          List.forall_mem_cons.2
            ⟨fun hmem => (List.mem_append.1 hmem).elim hgap.notMem hpart, hparts⟩, hs.last⟩
      rw [hgaps.trimmedParts_eq, hs.trimmedParts_eq, List.map_cons, List.map_cons,
        trimList_append_left hgap.isBlank]

theorem trimmedParts_of_notMem {part : List Char} (h : '\n' ∉ part) :
    trimmedParts part = [trimList part] := by
  rw [trimmedParts, splitLines, splitAll_eq_singleton (beq_lineFeed_eq_false h),
    List.map_singleton]

theorem trimmedParts_lineFeed {part : List Char} (h : '\n' ∉ part) (more : List Char) :
    trimmedParts (part ++ '\n' :: more) = trimList part :: trimmedParts more := by
  rw [trimmedParts, splitLines, splitAll_append rfl (beq_lineFeed_eq_false h), List.map_cons]
  rfl

/-- Blanks at the end of a part are trimmed. -/
theorem trimmedParts_pad {part : List Char} (hpart : '\n' ∉ part) (hgap : IsGap gap)
    (hrest : rest = [] ∨ ∃ more, rest = '\n' :: more) :
    trimmedParts (part ++ (gap ++ rest)) = trimmedParts (part ++ rest) := by
  have hpadded : '\n' ∉ part ++ gap :=
    fun hmem => (List.mem_append.1 hmem).elim hpart hgap.notMem
  have htrim : trimList (part ++ gap) = trimList part := trimList_append_right part hgap.isBlank
  rw [← List.append_assoc]
  rcases hrest with rfl | ⟨more, rfl⟩
  · rw [List.append_nil, List.append_nil, trimmedParts_of_notMem hpadded,
      trimmedParts_of_notMem hpart, htrim]
  · rw [trimmedParts_lineFeed hpadded, trimmedParts_lineFeed hpart, htrim]

theorem StartsLine.exists_joinLines (h : StartsLine front) :
    ∃ parts, front = joinLines parts ∧ ∀ part ∈ parts, '\n' ∉ part := by
  rcases h with rfl | ⟨before, rfl⟩
  · exact ⟨[], rfl, List.forall_mem_nil _⟩
  · obtain ⟨parts, last, hbefore⟩ := exists_isLines before
    exact ⟨parts ++ [last], hbefore.lineFeed.eq.trans (List.append_nil _), hbefore.lineFeed.lines⟩

theorem withReturns_of_notMem (h : '\n' ∉ s) : withReturns s = s := by
  have hchars : ∀ c ∈ s, (if c == '\n' then ['\r', '\n'] else [c]) = [c] := fun c hc => by
    rw [beq_lineFeed_eq_false h c hc]
    rfl
  rw [withReturns, List.flatMap_congr hchars, List.flatMap_singleton']

/-- Every part but the last has a carriage return more. -/
theorem IsLines.withReturns {parts : List (List Char)} {last : List Char}
    (h : IsLines s parts last) :
    IsLines (Text.withReturns s) (parts.map (· ++ ['\r'])) last := by
  refine ⟨?_, ?_, h.last⟩
  · rw [h.eq, Text.withReturns, List.flatMap_append, ← Text.withReturns, ← Text.withReturns,
      withReturns_of_notMem h.last]
    congr 1
    have hparts := h.lines
    clear h
    induction parts with
    | nil => rfl
    | cons part parts ih =>
        obtain ⟨hpart, hparts⟩ := List.forall_mem_cons.1 hparts
        rw [List.map_cons, joinLines_cons, joinLines_cons, Text.withReturns, List.flatMap_append,
          ← Text.withReturns, withReturns_of_notMem hpart, List.flatMap_cons, ← Text.withReturns,
          ih hparts, List.append_assoc]
        rfl
  · intro part hmem
    obtain ⟨line, hline, rfl⟩ := List.mem_map.1 hmem
    simpa using h.lines line hline

theorem trimmedParts_withReturns (s : List Char) :
    trimmedParts (withReturns s) = trimmedParts s := by
  obtain ⟨parts, last, hs⟩ := exists_isLines s
  rw [hs.withReturns.trimmedParts_eq, hs.trimmedParts_eq, List.map_map]
  congr 1
  exact List.map_congr_left fun part _ => trimList_append_return part

/-- **Changes at the ends of lines and of the text, and in the order of the lines, leave the trimmed
lines as they are, up to order.** -/
theorem Relined.perm_trimmedLines (h : Relined s t) : (trimmedLines s).Perm (trimmedLines t) := by
  induction h with
  | indent rest start blank =>
      obtain ⟨parts, rfl, hparts⟩ := start.exists_joinLines
      rw [trimmedLines_eq_of_parts]
      rw [trimmedParts_joinLines_append hparts, trimmedParts_joinLines_append hparts,
        trimmedParts_indent blank]
  | @pad gap rest front stop blank =>
      obtain ⟨parts, last, hfront⟩ := exists_isLines front
      have hpad : trimmedParts (last ++ rest) = trimmedParts (last ++ (gap ++ rest)) := by
        rcases stop with hnil | hfeed | ⟨more, rfl⟩
        · exact (trimmedParts_pad hfront.last blank (Or.inl hnil)).symm
        · exact (trimmedParts_pad hfront.last blank (Or.inr hfeed)).symm
        · -- The carriage return is one more blank.
          have hreturn : IsGap ['\r'] := List.forall_mem_singleton.2 (by decide)
          have hgap : IsGap (gap ++ ['\r']) := List.forall_mem_append.2 ⟨blank, hreturn⟩
          have hwithout := trimmedParts_pad hfront.last hreturn (Or.inr ⟨more, rfl⟩)
          have hwith := trimmedParts_pad hfront.last hgap (Or.inr ⟨more, rfl⟩)
          rw [List.append_assoc] at hwith
          exact hwithout.trans hwith.symm
      rw [trimmedLines_eq_of_parts]
      rw [hfront.eq, List.append_assoc, List.append_assoc,
        trimmedParts_joinLines_append hfront.lines, trimmedParts_joinLines_append hfront.lines,
        hpad]
  | returns s => rw [trimmedLines_eq_of_parts (trimmedParts_withReturns s)]
  | extend s blank => rw [trimmedLines, trimmedLines, trimEnd_append s blank]
  | permute solid perm =>
      have hsolid := fun line hline => solid line (perm.mem_iff.2 hline)
      rw [trimmedLines_of_solid solid, trimmedLines_of_solid hsolid]
      exact perm.map trimList
  | refl s => exact List.Perm.refl _
  | symm _ ih => exact ih.symm
  | trans _ _ ih ih' => exact ih.trans ih'

end PostFilter.Text
