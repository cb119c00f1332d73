import PostFilter.Proofs.Text.Lines
import PostFilter.Spam.Tally

/-!
# Spam — repeated lines

Whether the check for repeated lines fires depends on how often each line is there, and on nothing
else (`repeatsLines_iff`): not on the order in which the counts are looked at
(`repeatsLinesBy_eq`), and not on the order of the lines, the blanks around them and what they end
with (`Check.fires_sameLines`).
-/

namespace PostFilter

namespace Spam

open Text

variable {limits : SpamLimits} {text : List Char} {lines : List (List Char)}

/-! ### Counting -/

section
variable [Hashable (List Char)]

theorem getElem?_foldl_countLine (lines : List (List Char))
    (counts : Std.HashMap (List Char) Nat) (line : List Char) :
    (lines.foldl countLine counts)[line]? =
      if line ∈ lines then some (counts[line]?.getD 0 + lines.count line) else counts[line]? := by
  induction lines generalizing counts with
  | nil => rfl
  | cons first lines ih =>
      rw [List.foldl_cons, ih, countLine, Std.HashMap.getElem?_alter]
      by_cases hfirst : first = line
      · subst hfirst
        rw [if_pos (beq_self_eq_true first), if_pos List.mem_cons_self, List.count_cons_self]
        split
        · rw [Option.getD_some, Nat.add_assoc, Nat.add_comm 1]
        · rename_i hmem
          rw [List.count_eq_zero.2 hmem]
      · rw [if_neg (mt eq_of_beq hfirst), List.count_cons_of_ne hfirst]
        simp only [List.mem_cons, Ne.symm hfirst, false_or]

/-- The entries of the map are the lines that are not empty, each with the number of its copies. -/
theorem mem_tally {line : List Char} {copies : Nat} : (line, copies) ∈ (tally lines).toList ↔
    line ∈ lines ∧ line ≠ [] ∧ copies = lines.count line := by
  have hmem : line ∈ lines.filter (fun line => !line.isEmpty) ↔ line ∈ lines ∧ line ≠ [] := by
    simp
  rw [Std.HashMap.mem_toList_iff_getElem?_eq_some, tally, getElem?_foldl_countLine,
    Std.HashMap.getElem?_empty, Option.getD_none, Nat.zero_add]
  split
  · rename_i h
    obtain ⟨hline, hne⟩ := hmem.1 h
    have hcount : (lines.filter fun line => !line.isEmpty).count line = lines.count line :=
      List.count_filter (List.mem_filter.1 h).2
    rw [hcount, Option.some.injEq, eq_comm]
    exact ⟨fun hcopies => ⟨hline, hne, hcopies⟩, fun h => h.2.2⟩
  · rename_i h
    exact ⟨nofun, fun ⟨hline, hne, _⟩ => absurd (hmem.2 ⟨hline, hne⟩) h⟩

end

/-! ### The check -/

/-- **Lines are repeated if there are enough of them and one is there often enough.** -/
theorem repeatsLines_iff : repeatsLines limits text = true ↔
    limits.leastLines ≤ (countedLines text).length ∧ ∃ line ∈ countedLines text, line ≠ [] ∧
      limits.repeatedLines ≤ (countedLines text).count line ∧
      (countedLines text).length < 4 * (countedLines text).count line := by
  have hlines : countedLines text = trimmedLines text := map_trimList_lines_trimEnd text
  rw [repeatsLines, hlines]
  simp [and_assoc]

/-- The order in which the entries of the map come does not matter, and so it does not matter how
the lines are hashed. -/
theorem repeatsLinesBy_eq [Hashable (List Char)] {entries : List (List Char × Nat)}
    (h : entries.Perm (tally (countedLines text)).toList) :
    repeatsLinesBy limits text entries = repeatsLines limits text := by
  rw [Bool.eq_iff_iff, repeatsLines_iff, repeatsLinesBy, Bool.and_eq_true, decide_eq_true_eq,
    h.any_eq, List.any_eq_true]
  refine and_congr_right fun _ => ?_
  constructor
  · rintro ⟨⟨line, copies⟩, hentry, hcopies⟩
    obtain ⟨hline, hne, rfl⟩ := mem_tally.1 hentry
    obtain ⟨hrepeated, hshare⟩ := Bool.and_eq_true_iff.1 hcopies
    refine ⟨line, hline, hne, of_decide_eq_true hrepeated, ?_⟩
    rw [Nat.mul_comm]
    exact of_decide_eq_true hshare
  · rintro ⟨line, hline, hne, hrepeated, hshare⟩
    rw [Nat.mul_comm] at hshare
    exact ⟨_, mem_tally.2 ⟨hline, hne, rfl⟩,
      Bool.and_eq_true_iff.2 ⟨decide_eq_true hrepeated, decide_eq_true hshare⟩⟩

/-- The order of the lines does not matter. -/
theorem repeatsLines_congr {text' : List Char}
    (h : (countedLines text).Perm (countedLines text')) :
    repeatsLines limits text' = repeatsLines limits text := by
  rw [Bool.eq_iff_iff, repeatsLines_iff, repeatsLines_iff]
  simp only [h.length_eq, h.mem_iff, h.count_eq]

theorem perm_countedLines {text' : List Char} (h : Relined text text') :
    (countedLines text).Perm (countedLines text') := by
  rw [countedLines, countedLines, map_trimList_lines_trimEnd, map_trimList_lines_trimEnd]
  exact h.perm_trimmedLines

end Spam

open Spam Text

/-- **Repeated lines are told from the lines alone, in any order.** The check fires if the text has
the least number of lines and one that is not blank is there as often as the bound says and makes up
more than a quarter of all. It comes to the same with the counts of a map, however lines are hashed
and in whatever order its entries are looked at; on every text with the same lines; and on every
text that is changed at the ends of its lines, at its own end, or in the order of lines none of
which is blank. -/
theorem Check.fires_sameLines (limits : SpamLimits) (text : String) :
    let lines := countedLines text.toList
    (Check.sameLines.fires limits text = true ↔ limits.leastLines ≤ lines.length ∧
      ∃ line ∈ lines, line ≠ [] ∧ limits.repeatedLines ≤ lines.count line ∧
        lines.length < 4 * lines.count line) ∧
    (∀ [Hashable (List Char)] (entries : List (List Char × Nat)),
      entries.Perm (tally lines).toList →
      repeatsLinesBy limits text.toList entries = Check.sameLines.fires limits text) ∧
    (∀ text' : String, lines.Perm (countedLines text'.toList) →
      Check.sameLines.fires limits text' = Check.sameLines.fires limits text) ∧
    ∀ text' : String, Relined text.toList text'.toList →
      Check.sameLines.fires limits text' = Check.sameLines.fires limits text := by
  intro lines
  refine ⟨repeatsLines_iff, fun entries hentries => ?_, fun text' hperm => ?_,
    fun text' hrelined => ?_⟩
  · exact repeatsLinesBy_eq hentries
  · exact repeatsLines_congr hperm
  · exact repeatsLines_congr (perm_countedLines hrelined)

/-- Five copies among six lines are repetition, also where the odd line is at the end, the lines end
with carriage returns, the first one has a blank before it and a blank line follows; and also with
the counts in the opposite order of those of a map in which lines are hashed by length. -/
theorem Check.fires_sameLines_of_relined :
    let _ : Hashable (List Char) := ⟨fun line => line.length.toUInt64⟩
    let text := "a\nb\na\na\na\na"
    let sorted := "a\na\na\na\na\nb"
    let text' := " a\r\na\r\na\r\na\r\na\r\nb\n \n"
    Relined text.toList text'.toList ∧ Check.sameLines.fires {} text' = true ∧
    (countedLines text.toList).Perm (countedLines sorted.toList) ∧
    Check.sameLines.fires {} sorted = true ∧
    repeatsLinesBy {} text.toList (tally (countedLines text.toList)).toList.reverse = true := by
  intro _ text sorted text'
  have hsolid : (Text.lines text.toList).all (fun line => line.any fun c => !isBlank c) = true := by
    decide
  have hsorted : Relined text.toList sorted.toList :=
    .permute (fun line hline => by simpa using List.all_eq_true.1 hsolid line hline) (by decide)
  have hreturns : Relined sorted.toList (withReturns sorted.toList) := .returns _
  have hindent : Relined (withReturns sorted.toList) (' ' :: withReturns sorted.toList) :=
    @Relined.indent [] [' '] _ (Or.inl rfl) (List.forall_mem_singleton.2 (by decide))
  have hextend : Relined (' ' :: withReturns sorted.toList)
      (' ' :: withReturns sorted.toList ++ ['\n', ' ', '\n']) :=
    .extend _ (List.all_eq_true.1 (by decide))
  have htext : ' ' :: withReturns sorted.toList ++ ['\n', ' ', '\n'] = text'.toList := by decide
  have hrelined : Relined text.toList text'.toList :=
    htext ▸ ((hsorted.trans hreturns).trans hindent).trans hextend
  have hperm : (countedLines text.toList).Perm (countedLines sorted.toList) := by decide
  obtain ⟨-, hentries, hlines, hchanged⟩ := Check.fires_sameLines {} text
  have hfires : Check.sameLines.fires {} text = true := by decide
  exact ⟨hrelined, (hchanged text' hrelined).trans hfires, hperm,
    (hlines sorted hperm).trans hfires, (hentries _ (List.reverse_perm _)).trans hfires⟩

end PostFilter
