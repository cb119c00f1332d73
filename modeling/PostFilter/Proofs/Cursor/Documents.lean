import PostFilter.Proofs.Cursor.Spells
import PostFilter.Proofs.Grammar.Documents
import PostFilter.Proofs.Text.Positions

/-!
# Documents — the reader by offsets follows the reader: documents

Chains, groups and statements are read by offsets as they are read (`follows_readChain`,
`follows_readGroupWithin`, `follows_readStatements`). An operand and a statement leave less of the
text than there was, so the offset behind them is higher, and each round of a loop gets ahead.

* `parse_never_slips` — the reader by offsets never slips, reads what `Document.parse` reads, and
  reports its faults where characters start.
-/

namespace PostFilter.Document.Cursor

open Text

/-- The same value with at least one character taken, and the cursor on the rest. -/
def Passes {α : Type} {s : List Char} (text : List Char) (t : Taking α s) (taken : Taken α) :
    Prop :=
  taken.1 = t.value ∧ At text taken.2 t.rest

section
variable {text s : List Char} {pos : Nat}

/-! ### Joiners -/

theorem any_isJoiner (c : Char) : (c == '&' || c == '|') = (joiner? c).isSome := by
  rw [joiner?]
  cases hand : c == '&' with
  | true => rfl
  | false => cases c == '|' <;> rfl

theorem isSign_of_at (h : At text pos s) :
    isSign text pos = s.head?.any fun c => (joiner? c).isSome := by
  have htest : IsAsciiTest fun c => c == '&' || c == '|' := fun c d hc hd =>
    congrArg₂ _ (isAsciiTest_beq (by decide) c d hc hd) (isAsciiTest_beq (by decide) c d hc hd)
  rw [isSign, any_byteAt? h htest]
  exact congrArg s.head?.any (funext any_isJoiner)

theorem takeSign_of_at {c : Char} {j : Joiner} (h : At text pos (c :: s))
    (hj : joiner? c = some j) :
    ∃ next, takeSign text pos = .ok (j, next) ∧ At text next (skippedAny s).rest := by
  have hc := sign_of_joiner? hj
  have hlt : c.toNat < 128 := by
    rw [hc]
    cases j <;> decide
  have hbehind := at_succ h hlt
  obtain ⟨next, hnext, hat⟩ := skipAny_of_at hbehind
  obtain ⟨b, hb, halike⟩ := byteAt?_of_at_cons h
  refine ⟨next, ?_, hat⟩
  rw [takeSign, hb]
  dsimp only
  rw [moveTo_of_at hbehind, ok_bind, hnext, ok_bind, halike.beq '&' (by decide), hc]
  cases j <;> rfl

theorem follows_readJoiner? (inside : Bool) (h : At text pos s) :
    Follows text (Lands text) (readJoiner? inside s) (takeJoiner? text inside pos) := by
  obtain ⟨start, hstart, hat⟩ := skipBlanks_of_at inside h
  rw [readJoiner?, takeJoiner?, hstart, ok_bind]
  dsimp only
  cases hrest : (skippedBlanks inside s).rest with
  | nil =>
      rw [next?_of_rest_nil hrest, byteAt?_of_at_nil (hrest ▸ hat)]
      exact .ok ⟨rfl, hat⟩
  | cons c rest =>
      have hc : At text start (c :: rest) := hrest ▸ hat
      obtain ⟨n, hn, rfl, rfl⟩ := next?_of_rest_cons hrest
      obtain ⟨b, hb, halike⟩ := byteAt?_of_at_cons hc
      rw [hn, hb]
      dsimp only
      rw [isSign_of_at hc, List.head?_cons, Option.any_some]
      cases hj : joiner? n.value with
      | some j =>
          obtain ⟨next, hnext, hbehind⟩ := takeSign_of_at hc hj
          rw [Option.isSome_some, if_pos rfl, hnext]
          exact .ok ⟨rfl, hbehind⟩
      | none =>
          rw [Option.isSome_none, if_neg Bool.false_ne_true, halike.beq ')' (by decide),
            halike.beq '\n' (by decide), halike.beq '#' (by decide), halike.beq '(' (by decide),
            halike.beq '!' (by decide)]
          dsimp only
          split
          · exact .ok ⟨rfl, hat⟩
          split
          · rename_i hline
            -- The line ends here, and the cursor stays unless a joiner begins the next one.
            have hrun := at_runEnd hc isAsciiTest_isAnyBlank
            rw [eq_of_beq hline, List.dropWhile_cons_of_pos (by decide)] at hrun
            have hend : At text _ (n.andThen (skippedAny n.rest)).rest := hrun
            cases hnext : (n.andThen (skippedAny n.rest)).rest with
            | nil =>
                rw [next?_of_rest_nil hnext, isSign_of_at (hnext ▸ hend)]
                exact .ok ⟨rfl, hat⟩
            | cons d more =>
                have hd : At text _ (d :: more) := hnext ▸ hend
                obtain ⟨m, hm, rfl, rfl⟩ := next?_of_rest_cons hnext
                rw [hm, isSign_of_at hd, List.head?_cons, Option.any_some]
                dsimp only
                cases hjoiner : joiner? m.value with
                | some j =>
                    obtain ⟨next, hnext, hbehind⟩ := takeSign_of_at hd hjoiner
                    rw [Option.isSome_some, if_pos rfl, hnext]
                    exact .ok ⟨rfl, hbehind⟩
                | none => exact .ok ⟨rfl, hat⟩
          rw [direction?_of_at hc, ok_bind]
          split
          · exact follows_fail hc _
          split
          · exact follows_fail hc _
          · rw [charAt_of_at hc]
            exact follows_fail hc _

theorem follows_readChain {operand : (s : List Char) → Except Failure (Taking Clause s)}
    {step : Nat → Except Stop (Taken Clause)}
    (hoperand : ∀ {pos s}, At text pos s → Follows text (Passes text) (operand s) (step pos))
    (inside : Bool) {s : List Char} {pos : Nat} (h : At text pos s) :
    Follows text (Passes text) (readChain inside operand s) (takeChain text inside step pos) := by
  rw [readChain, takeChain]
  obtain ⟨failure, offset, hread, hstep, hat⟩ | ⟨c, taken, hread, hstep, hc⟩ := (hoperand h).cases
  · rw [hread, hstep]
    exact .fault hat
  rw [hread, hstep]
  dsimp only
  obtain ⟨failure, offset, hread, hjoiner, hat⟩ | ⟨j, taken', hread, hjoiner, hj⟩ :=
    (follows_readJoiner? inside hc.2).cases
  · rw [hread, hjoiner]
    exact .fault hat
  have hround : pos < taken.2 ∧ taken.2 ≤ taken'.2 ∧ taken'.2 ≤ byteLength text :=
    ⟨h.lt_of_length_lt hc.2 c.lt, hc.2.le_of_length_le hj.2 j.le, hj.2.le⟩
  rw [hread, hjoiner]
  dsimp only
  rw [dif_pos hround, hj.1, hc.1]
  cases j.value with
  | none => exact .ok ⟨rfl, hj.2⟩
  | some joiner =>
      have hlt : j.rest.length < s.length := Nat.lt_of_le_of_lt j.le c.lt
      dsimp only
      obtain ⟨failure, offset, hread, hmore, hat⟩ | ⟨more, last, hread, hmore, hlast⟩ :=
        (follows_readChain hoperand inside hj.2).cases
      · rw [hread, hmore]
        exact .fault hat
      · rw [hread, hmore]
        exact .ok ⟨congrArg _ hlast.1, hlast.2⟩
termination_by s.length

/-! ### Groups and operands -/

theorem head?_beq_iff {d : Char} : (s.head? == some d) = true ↔ ∃ rest, s = d :: rest :=
  beq_iff_eq.trans List.head?_eq_some_iff

theorem sign?_eq_none_of_not {α : Type} {r : Reading α s} {d : Char}
    (h : ¬ ∃ rest, r.rest = d :: rest) : r.sign? d = none := by
  refine sign?_eq_none fun c hc => beq_eq_false_iff_ne.2 ?_
  rintro rfl
  exact h (List.head?_eq_some_iff.1 hc)

theorem follows_readGroup {operand : (s : List Char) → Except Failure (Taking Clause s)}
    {step : Nat → Except Stop (Taken Clause)}
    (hoperand : ∀ {pos s}, At text pos s → Follows text (Passes text) (operand s) (step pos))
    (h : At text pos ('(' :: s)) :
    Follows text (Lands text) (readGroup operand ('(' :: s) s) (takeGroup text step pos) := by
  have hopened := at_succ h (by decide)
  obtain ⟨start, hstart, hat⟩ := skipAny_of_at hopened
  rw [readGroup, takeGroup, moveTo_of_at hopened, ok_bind, hstart, ok_bind]
  dsimp only
  by_cases hempty : ∃ rest, (skippedAny s).rest = ')' :: rest
  · rw [if_pos (head?_beq_iff.2 hempty), if_pos ((byteAt?_beq_iff hat (by decide)).2 hempty)]
    exact follows_fail h _
  rw [if_neg (mt head?_beq_iff.1 hempty), if_neg (mt (byteAt?_beq_iff hat (by decide)).1 hempty)]
  refine (follows_readChain hoperand true hat).bind (fun _ hm => by rw [hm])
    fun members taken hm hmembers => ?_
  rw [hm]
  dsimp only
  by_cases hclose : ∃ rest, members.rest = ')' :: rest
  · rw [if_pos ((byteAt?_beq_iff hmembers.2 (by decide)).2 hclose)]
    obtain ⟨rest, hrest⟩ := hclose
    obtain ⟨close, hsign, hleft⟩ := sign?_of_rest_cons (r := members.toReading) hrest
    have hbehind : At text (taken.2 + 1) close.rest := by
      rw [hleft]
      exact at_succ (hrest ▸ hmembers.2) (by decide)
    rw [hsign, moveTo_of_at hbehind, ok_bind, hmembers.1]
    exact .ok ⟨rfl, hbehind⟩
  · rw [if_neg (mt (byteAt?_beq_iff hmembers.2 (by decide)).1 hclose),
      sign?_eq_none_of_not (r := members.toReading) hclose]
    exact follows_fail h _

theorem follows_readPlainOperand {group : (whole s : List Char) → Except Failure (Reading Group s)}
    {step : Nat → Except Stop (Taken Group)}
    (hgroup : ∀ {pos s}, At text pos ('(' :: s) →
      Follows text (Lands text) (group ('(' :: s) s) (step pos))
    (inside : Bool) (h : At text pos s) :
    Follows text (Passes text) (readPlainOperand inside group s)
      (takePlainOperand text inside step pos) := by
  cases s with
  | nil =>
      rw [readPlainOperand, takePlainOperand, byteAt?_of_at_nil h]
      exact follows_fail h _
  | cons c rest =>
      obtain ⟨b, hb, halike⟩ := byteAt?_of_at_cons h
      rw [readPlainOperand, takePlainOperand, hb]
      dsimp only
      rw [halike.beq '(' (by decide), halike.beq '#' (by decide), halike.beq ')' (by decide)]
      split
      · rename_i hc
        rw [eq_of_beq hc] at h ⊢
        exact (hgroup h).map fun g taken hg => ⟨congrArg Clause.group hg.1, hg.2⟩
      split
      · rename_i hc
        rw [direction?_of_at h, ok_bind]
        split
        · exact follows_fail h _
        · rw [eq_of_beq hc] at h ⊢
          exact (follows_readSpell h).map fun g taken hg => ⟨congrArg Clause.spell hg.1, hg.2⟩
      split
      · exact follows_fail h _
      · rw [charAt_of_at h]
        exact follows_fail h _

theorem follows_readOperand {group : (whole s : List Char) → Except Failure (Reading Group s)}
    {step : Nat → Except Stop (Taken Group)}
    (hgroup : ∀ {pos s}, At text pos ('(' :: s) →
      Follows text (Lands text) (group ('(' :: s) s) (step pos))
    (inside : Bool) (h : At text pos s) :
    Follows text (Passes text) (readOperand inside group s) (takeOperand text inside step pos) := by
  obtain ⟨start, hstart, hat⟩ := skipBlanks_of_at inside h
  rw [readOperand, takeOperand, hstart, ok_bind, takeMark]
  dsimp only
  by_cases hmark : ∃ rest, (skippedBlanks inside s).rest = '!' :: rest
  · rw [if_pos ((byteAt?_beq_iff hat (by decide)).2 hmark)]
    obtain ⟨rest, hrest⟩ := hmark
    obtain ⟨mark, hsign, rfl⟩ := sign?_of_rest_cons hrest
    have hbehind : At text (start + 1) mark.rest := at_succ (hrest ▸ hat) (by decide)
    obtain ⟨next, hnext, hbody⟩ := skipBlanks_of_at inside hbehind
    rw [hsign, moveTo_of_at hbehind, ok_bind, hnext]
    exact (follows_readPlainOperand hgroup inside hbody).map fun c taken hc =>
      ⟨congrArg (Clause.negateIf true) hc.1, hc.2⟩
  · rw [if_neg (mt (byteAt?_beq_iff hat (by decide)).1 hmark), sign?_eq_none_of_not hmark]
    exact (follows_readPlainOperand hgroup inside hat).map fun c taken hc =>
      ⟨congrArg (Clause.negateIf false) hc.1, hc.2⟩

/-- **A group is read by offsets as it is read**, at every depth. -/
theorem follows_readGroupWithin (limit : Nat) : ∀ (levels : Nat) {pos : Nat} {s : List Char},
    At text pos ('(' :: s) →
      Follows text (Lands text) (readGroupWithin limit levels ('(' :: s) s)
        (takeGroupWithin text limit levels pos)
  | 0, _, _, h => follows_fail h _
  | levels + 1, _, _, h =>
      follows_readGroup (follows_readOperand (follows_readGroupWithin limit levels) true) h

theorem follows_readStatementChain (limit : Nat) (h : At text pos s) :
    Follows text (Passes text) (readStatementChain limit s) (takeStatementChain text limit pos) :=
  follows_readChain (follows_readOperand (follows_readGroupWithin limit limit) false) false h

/-! ### Statements -/

theorem follows_readReplacement (direction : Direction) {whole : List Char} {start : Nat}
    (hwhole : At text start whole)
    (h : At text (start + 1 + byteLength direction.word.toList) s) :
    Follows text (Lands text) (readReplacement direction whole s)
      (takeReplacement text direction start) := by
  rw [readReplacement, takeReplacement, moveTo_of_at h, ok_bind]
  refine (follows_readScope? h).bind (fun _ hs => by rw [hs]) fun scope taken hs hscope => ?_
  rw [hs]
  dsimp only
  by_cases hopen : ∃ rest, scope.rest = '(' :: rest
  · rw [if_pos ((byteAt?_beq_iff hscope.2 (by decide)).2 hopen)]
    obtain ⟨rest, hrest⟩ := hopen
    obtain ⟨opening, hsign, rfl⟩ := sign?_of_rest_cons hrest
    have hopened : At text (taken.2 + 1) opening.rest :=
      at_succ (hrest ▸ hscope.2) (by decide)
    obtain ⟨blanks, hblanks, hbody⟩ := skipInline_of_at hopened
    have hpattern : At text blanks (opening.andThen (skippedInline opening.rest)).rest := hbody
    rw [hsign, moveTo_of_at hopened, ok_bind, hblanks, ok_bind]
    dsimp only
    refine (follows_readPattern hpattern).bind (fun _ hp => by rw [hp]) fun p taken' hp hlands => ?_
    obtain ⟨next, hnext, hbehind⟩ := skipInline_of_at hlands.2
    rw [hp, hnext, ok_bind, hscope.1, hlands.1]
    dsimp only
    generalize hread : ((opening.andThen (skippedInline opening.rest)).andThen p).andThen
      (skippedInline p.rest) = behind
    have hat : At text next behind.rest := hread ▸ hbehind
    by_cases hcomma : ∃ rest, behind.rest = ',' :: rest
    · rw [if_pos ((byteAt?_beq_iff hat (by decide)).2 hcomma)]
      obtain ⟨rest, hrest⟩ := hcomma
      obtain ⟨comma, hsign, rfl⟩ := sign?_of_rest_cons hrest
      have htext : At text (next + 1) comma.rest := at_succ (hrest ▸ hat) (by decide)
      rw [hsign, moveTo_of_at htext, ok_bind]
      exact (follows_readText hscope.2 htext).map fun t last ht =>
        ⟨congrArg (fun t => Replacement.make scope.value p.value (String.ofList t)) ht.1, ht.2⟩
    · rw [if_neg (mt (byteAt?_beq_iff hat (by decide)).1 hcomma), sign?_eq_none_of_not hcomma]
      exact (follows_readClose hscope.2 hat).map fun close last hclose => ⟨rfl, hclose⟩
  · rw [if_neg (mt (byteAt?_beq_iff hscope.2 (by decide)).1 hopen), sign?_eq_none_of_not hopen]
    exact follows_fail hwhole _

theorem follows_readReplacementEnd (h : At text pos s) :
    Follows text (fun r next => At text next r.rest) (readReplacementEnd s)
      (takeLineEnd text pos) := by
  obtain ⟨start, hstart, hat⟩ := skipInline_of_at h
  rw [readReplacementEnd, takeLineEnd, hstart, ok_bind]
  dsimp only
  cases hrest : (skippedInline s).rest with
  | nil =>
      have hend : At text start [] := hrest ▸ hat
      have hnext : At text (runEnd isAnyBlank text start) [] :=
        at_runEnd hend isAsciiTest_isAnyBlank
      rw [byteAt?_of_at_nil hend, isSign_of_at hnext]
      exact .ok hat
  | cons c rest =>
      have hc : At text start (c :: rest) := hrest ▸ hat
      obtain ⟨b, hb, halike⟩ := byteAt?_of_at_cons hc
      rw [hb, Option.all_some, halike.beq '\n' (by decide)]
      dsimp only [List.head?_cons]
      split
      · have hnext : At text (runEnd isAnyBlank text start) (Document.skipAny (c :: rest)) :=
          at_runEnd hc isAsciiTest_isAnyBlank
        rw [isSign_of_at hnext]
        split
        · exact follows_fail hnext _
        · exact .ok hat
      rw [isSign_of_at hc, List.head?_cons, Option.any_some]
      split
      · exact follows_fail hc _
      · rw [charAt_of_at hc]
        exact follows_fail hc _

theorem follows_readStatement (limit : Nat) (hne : s ≠ []) (h : At text pos s) :
    Follows text (Passes text) (readStatement limit s) (takeStatement text limit pos) := by
  obtain ⟨c, rest, rfl⟩ := List.exists_cons_of_ne_nil hne
  rw [readStatement, takeStatement, direction?_of_at h, ok_bind]
  cases hdirection : Document.direction? (c :: rest) with
  | some direction =>
      obtain ⟨_, heq, hword⟩ := eq_of_direction? hdirection
      cases heq
      have hrest := at_succ h (by decide)
      have hrule : At text (pos + 1 + byteLength direction.word.toList) (readWord rest).rest := by
        rw [← hword]
        exact At.behind (by rwa [readWord, Reading.run, List.takeWhile_append_dropWhile])
      dsimp only
      refine (follows_readReplacement direction h hrule).bind (fun _ hr => by rw [hr])
        fun rule taken hr hlands => ?_
      rw [hr]
      exact (follows_readReplacementEnd hlands.2).map fun line next hat =>
        ⟨congrArg (Statement.replacement direction) hlands.1, hat⟩
  | none =>
      dsimp only
      refine (follows_readStatementChain limit h).bind (fun _ hm => by rw [hm])
        fun chain taken hm hchain => ?_
      rw [hm]
      dsimp only
      by_cases hclose : ∃ rest, chain.rest = ')' :: rest
      · rw [if_pos (head?_beq_iff.2 hclose),
          if_pos ((byteAt?_beq_iff hchain.2 (by decide)).2 hclose)]
        exact follows_fail hchain.2 _
      · rw [if_neg (mt head?_beq_iff.1 hclose),
          if_neg (mt (byteAt?_beq_iff hchain.2 (by decide)).1 hclose), hchain.1]
        exact .ok ⟨rfl, hchain.2⟩

theorem takeStatements_of_skipAny {limit start : Nat} (h : skipAny text pos = .ok start) :
    takeStatements text limit pos =
      if _ : byteLength text ≤ start then .ok []
      else
        match takeStatement text limit start with
        | .error stop => .error stop
        | .ok (statement, behind) =>
          if _ : start < behind then
            match takeStatements text limit behind with
            | .error stop => .error stop
            | .ok more => .ok (statement :: more)
          else .error (.slip (.round start)) := by
  rw [takeStatements]
  split
  · rename_i hskip
    rw [h] at hskip
    cases hskip
  · rename_i hskip
    cases h.symm.trans hskip
    rfl

theorem follows_readStatements (limit : Nat) {s : List Char} {pos : Nat} (h : At text pos s) :
    Follows text Eq (readStatements limit s) (takeStatements text limit pos) := by
  obtain ⟨start, hstart, hat⟩ := skipAny_of_at h
  have hlength := hat.length_eq
  rw [readStatements, takeStatements_of_skipAny hstart]
  dsimp only
  by_cases hempty : (skippedAny s).rest = []
  · have hend : byteLength text ≤ start := by
      rw [hempty] at hlength
      exact hlength.ge
    rw [if_pos (List.isEmpty_iff.2 hempty), dif_pos hend]
    exact .ok rfl
  have hinside : ¬ byteLength text ≤ start := by
    have := byteLength_pos hempty
    omega
  rw [if_neg (mt List.isEmpty_iff.1 hempty), dif_neg hinside]
  obtain ⟨failure, offset, hread, hout, hfault⟩ | ⟨statement, taken, hread, hout, hbehind⟩ :=
    (follows_readStatement limit hempty hat).cases
  · rw [hread, hout]
    exact .fault hfault
  have hlt : statement.rest.length < s.length := Nat.lt_of_lt_of_le statement.lt (skippedAny s).le
  rw [hread, hout]
  dsimp only
  rw [dif_pos (hat.lt_of_length_lt hbehind.2 statement.lt), hbehind.1]
  obtain ⟨failure, offset, hread, hmore, hfault⟩ | ⟨more, _, hread, hmore, rfl⟩ :=
    (follows_readStatements limit hbehind.2).cases
  · rw [hread, hmore]
    exact .fault hfault
  · rw [hread, hmore]
    exact .ok rfl
termination_by s.length

theorem follows_readDocument (limits : Limits) (text : List Char) :
    Follows text Eq (readDocument limits text) (takeDocument text limits) := by
  rw [readDocument, takeDocument]
  split
  · exact follows_fail (at_zero text) _
  · obtain ⟨failure, offset, hread, hout, hat⟩ | ⟨statements, _, hread, hout, rfl⟩ :=
      (follows_readStatements limits.depth (at_zero text)).cases
    · rw [hread, hout]
      exact .fault hat
    · rw [hread, hout]
      exact .ok rfl

end

/-! ### Positions -/

theorem atOffset_of_at {source : String} {offset : Nat} {rest : List Char}
    (h : At source.toList offset rest) :
    Position.atOffset source offset = positionOf source.toList rest := by
  obtain ⟨front, hsource, rfl⟩ := h
  rw [Position.atOffset, positionOf, hsource, frontWithin_append, List.length_append,
    Nat.add_sub_cancel_right, List.take_left]

theorem offset_positionOf {source : String} {offset : Nat} {rest : List Char}
    (h : At source.toList offset rest) : (positionOf source.toList rest).offset = offset := by
  obtain ⟨front, hsource, rfl⟩ := h
  rw [positionOf, hsource, List.length_append, Nat.add_sub_cancel_right, List.take_left]
  rfl

/-- **The reader by offsets reads what the reader reads, and never slips.** For every text and all
limits, each move of its cursor is to a boundary of the text, each part it takes lies between
boundaries in order, each byte and character it takes by an offset is there, and each operand and
statement gets ahead. So it ends, with the document or with the fault of `Document.parse`; and a
fault is reported at a boundary. -/
theorem parse_never_slips (source : String) (limits : Limits) :
    Cursor.parse source limits = .ok (Document.parse source limits) ∧
      ∀ fault, Document.parse source limits = .error fault →
        String.Pos.Raw.IsValid source ⟨fault.position.offset⟩ := by
  rw [Cursor.parse, Document.parse]
  obtain ⟨failure, offset, hread, hout, hat⟩ | ⟨document, _, hread, hout, rfl⟩ :=
    (follows_readDocument limits source.toList).cases
  · rw [hread, hout]
    refine ⟨?_, ?_⟩
    · dsimp only [Except.mapError]
      rw [atOffset_of_at hat]
    · rintro _ ⟨⟩
      rw [← isBoundary_iff_isValid, offset_positionOf hat]
      exact isBoundary_iff.2 ⟨_, hat⟩
  · rw [hread, hout]
    refine ⟨rfl, ?_⟩
    rintro _ ⟨⟩

end PostFilter.Document.Cursor
