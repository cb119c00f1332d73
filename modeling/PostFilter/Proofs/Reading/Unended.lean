import PostFilter.Proofs.Grammar.Documents
import PostFilter.Proofs.Pattern.Slashes
import PostFilter.Proofs.Reading.Depth

/-!
# Documents — literals that do not end

A literal is not read back if its source is empty or a slash behind it belongs to it
(`IsUnreadable`). If no other slash follows, nothing ends the literal. If the same literal is
written once more, the slash before its second copy may end it; what follows is the source, where
the argument should be closed. A source that begins with the parenthesis for that, letters and
blanks left aside, is no pattern (`Pattern.source_ne_of_unopened`). So in both places there is no
argument (`NoArgument`), and a spell with such a literal is refused (`readOperand_noArgument`).

A refused statement stops the reading of a document at whose end it stands
(`DocumentText.readStatements_fails`).
-/

namespace PostFilter

open Text Document

namespace Pattern

/-- Letters and blanks, which stand for themselves in a pattern. -/
def isPlain (c : Char) : Bool := c.isAlpha || isInlineBlank c

/-- A character that stands for itself is one part more. -/
theorem step_plain (st : TreeState) {c : Char} (hc : isPlain c = true) (rest : List Char) :
    st.step c rest = .ok (.stay (st.push (.literal ⟨c, false⟩)) rest) := by
  have hrepeat : shortRepeat? c = none := by
    rw [shortRepeat?.eq_def]
    split
    case h_4 => rfl
    all_goals exact absurd hc (by decide)
  have hprimitive : readPrimitive st.spaced c rest = .ok (.stay (.literal ⟨c, false⟩) rest) := by
    rw [readPrimitive.eq_def]
    split
    case h_5 => rfl
    all_goals exact absurd hc (by decide)
  rw [TreeState.step.eq_def]
  split
  case h_6 =>
    rw [hrepeat, hprimitive]
    rfl
  all_goals exact absurd hc (by decide)

theorem readTreeFrom_cons {st : TreeState} (hspaced : st.spaced = false) (c : Char)
    (rest : List Char) :
    readTreeFrom st (c :: rest) = (st.step c rest).bind fun r => readTreeFrom r.value r.rest := by
  have htake : (skipped false (c :: rest)).take? =
      some ⟨c, rest, Nat.lt_succ_self rest.length⟩ := rfl
  rw [readTreeFrom, hspaced, htake]
  dsimp only
  cases st.step c rest <;> rfl

/-- **A parenthesis that closes none is a fault**, if only letters and blanks are before it. -/
theorem readTreeFrom_of_unopened {w : List Char} (hw : ∀ c ∈ w, isPlain c = true)
    (rest : List Char) {st : TreeState} (hstack : st.stack = []) (hspaced : st.spaced = false) :
    readTreeFrom st (w ++ ')' :: rest) = .error .groupUnopened := by
  induction w generalizing st with
  | nil =>
      have hclose : st.closeGroup = .error .groupUnopened := by
        rw [TreeState.closeGroup, TreeState.closeBranches, hstack]
      have hstep : st.step ')' rest = .error .groupUnopened := by
        rw [TreeState.step, hclose]
        rfl
      rw [List.nil_append, readTreeFrom_cons hspaced, hstep]
      rfl
  | cons c w ih =>
      obtain ⟨hc, hw⟩ := List.forall_mem_cons.1 hw
      rw [List.cons_append, readTreeFrom_cons hspaced, step_plain st hc]
      exact ih hw hstack hspaced

/-- So no pattern begins with one, but for letters and blanks. -/
theorem source_ne_of_unopened (p : Pattern) (hspaced : p.flags.spaced = false) {w : List Char}
    (hw : ∀ c ∈ w, isPlain c = true) (rest : List Char) : p.source.toList ≠ w ++ ')' :: rest := by
  intro hsource
  have htree : readTreeFrom { spaced := p.flags.spaced } (w ++ ')' :: rest) =
      .error .groupUnopened := readTreeFrom_of_unopened hw rest rfl hspaced
  have hp := p.resolves
  rw [Pattern.resolve, readTree, hsource, htree] at hp
  cases hp

end Pattern

namespace Document

open Pattern LiteralState

/-- Whether what is read of a literal from behind its first slash on is no argument: it is empty,
does not end, or is not followed by a parenthesis that closes the argument. -/
def NoArgument (body : List Char) : Prop :=
  ∀ source rest, scanPattern false body = some (source, rest) → source ≠ [] →
    ∀ more, skipInline (rest.dropWhile Char.isAlpha) ≠ ')' :: more

/-- Whether a pattern that is read without the flag for blanks is not read back: no slash of its
source ends the literal, nor does the one behind it. -/
structure IsUnreadable (p : Pattern) : Prop where
  spaced : p.flags.spaced = false
  covers : Covers {} p.source.toList
  unended : IsUnended p.source

variable {p : Pattern}

/-- An empty literal is ended by its second slash. -/
theorem IsUnreadable.noArgument_of_empty (hsource : p.source = "") (rest : List Char) :
    NoArgument (p.source.toList ++ '/' :: rest) := by
  rw [hsource]
  intro source rest' hscan hne
  rw [scanPattern_eq_scan] at hscan
  have hends : LiteralState.scan {} ('/' :: rest) = some ([], rest) := scan_slash rfl rest
  cases hends.symm.trans hscan
  exact absurd rfl hne

/-- Nothing is behind the literal that could end it. -/
theorem IsUnreadable.noArgument (h : IsUnreadable p) {rest : List Char} (hrest : '/' ∉ rest) :
    NoArgument (p.source.toList ++ '/' :: rest) := by
  rcases h.unended with hempty | hopen
  · exact noArgument_of_empty hempty rest
  · intro source rest' hscan
    rw [scanPattern_of_isOpen h.covers hopen hrest] at hscan
    cases hscan

/-- Where the second copy of the source is not in the literal, no parenthesis is in its place. -/
theorem IsUnreadable.skipInline_ne (h : IsUnreadable p) (rest more : List Char) :
    skipInline ((p.source.toList ++ '/' :: rest).dropWhile Char.isAlpha) ≠ ')' :: more := by
  intro hskip
  generalize hs : p.source.toList ++ '/' :: rest = s at hskip
  let w := s.takeWhile Char.isAlpha ++ (s.dropWhile Char.isAlpha).takeWhile isInlineBlank
  have hplain : ∀ c ∈ w, isPlain c = true := by
    intro c hc
    rw [isPlain, Bool.or_eq_true]
    exact (List.mem_append.1 hc).imp List.mem_takeWhile_imp List.mem_takeWhile_imp
  have hw : s = w ++ ')' :: more := by
    rw [← hskip, skipInline, List.append_assoc, List.takeWhile_append_dropWhile,
      List.takeWhile_append_dropWhile]
  rcases List.append_eq_append_iff.1 (hs.trans hw) with
    ⟨tail, hsource, hslash⟩ | ⟨tail, hsource, hparen⟩
  · cases tail with
    | nil => cases hslash
    | cons c tail =>
        cases hslash
        have hc : '/' ∈ w := hsource ▸ List.mem_append_right _ List.mem_cons_self
        cases hplain '/' hc
  · cases tail with
    | nil => cases hparen
    | cons c tail =>
        cases hparen
        exact source_ne_of_unopened p h.spaced hplain tail hsource

/-- A second literal with the same source is behind. -/
theorem IsUnreadable.noArgument_twice (h : IsUnreadable p) {between rest : List Char}
    (hbetween : '/' ∉ between) (hrest : '/' ∉ rest) :
    NoArgument (p.source.toList ++ '/' :: (between ++ '(' :: '/' ::
      (p.source.toList ++ '/' :: rest))) := by
  rcases h.unended with hempty | hopen
  · exact noArgument_of_empty hempty _
  · intro source rest' hscan _
    have htext : p.source.toList ++ '/' :: (between ++ '(' :: '/' ::
        (p.source.toList ++ '/' :: rest)) = p.source.toList ++ '/' :: (between ++ ['(']) ++
          '/' :: (p.source.toList ++ '/' :: rest) := by simp
    rw [htext] at hscan
    rcases scanPattern_of_isOpen_twice h.covers hopen hbetween hrest with hnone | hsome
    · rw [hnone] at hscan
      cases hscan
    · rw [hsome] at hscan
      cases hscan
      exact h.skipInline_ne rest

/-! ### Arguments -/

/-- What a pattern leaves of the text. -/
theorem yields_readPattern_rest (body : List Char) :
    Yields (readPattern ('/' :: body)) fun r => ∃ source rest,
      scanPattern false body = some (source, rest) ∧ source ≠ [] ∧
        r.rest = rest.dropWhile Char.isAlpha := by
  rw [readPattern]
  split
  · exact yields_error _
  · rename_i source hsource
    split
    · exact yields_error _
    · rename_i hne
      dsimp only
      split
      · exact yields_error _
      · exact yields_ok ⟨_, _, scanPattern_of_readSource? hsource,
          fun hnil => hne (List.isEmpty_iff.2 hnil), rfl⟩

/-- What is no argument is refused as one. -/
theorem readArgument_fails {kind : Kind} (hshape : kind.shape = .pattern) {body : List Char}
    (h : NoArgument body) (whole : List Char) :
    ∃ cause, Fails (readArgument kind whole ('/' :: body)) cause := by
  have hstart : (skippedInline ('/' :: body)).rest = '/' :: body :=
    skipInline_eq_self (stops_cons rfl)
  have hpattern := yields_readPattern_rest body
  rw [← hstart] at hpattern
  rw [readArgument, hshape]
  dsimp only
  cases hread : readPattern (skippedInline ('/' :: body)).rest with
  | error failure => exact ⟨failure.cause, failure.rest, rfl⟩
  | ok p =>
      obtain ⟨source, rest, hscan, hne, hrest⟩ := hpattern p hread
      dsimp only
      cases hclose : readClose whole (((skippedInline ('/' :: body)).andThen p).andThen
          (skippedInline p.rest)).rest with
      | error failure => exact ⟨failure.cause, failure.rest, rfl⟩
      | ok close =>
          have hparen : skipInline p.rest = ')' :: close.rest := eq_of_readClose hclose
          exact absurd ((congrArg skipInline hrest.symm).trans hparen) (h source rest hscan hne _)

/-! ### Spells -/

theorem readSpell_fails {kind : Kind} (hshape : kind.shape = .pattern) {scope : Option Scope}
    (hscope : ∀ s ∈ scope, s.IsWellFormed) {body : List Char} (h : NoArgument body)
    (whole : List Char) : ∃ cause, Fails
      (readSpell whole (kind.word.toList ++ (scopeText scope ++ '(' :: '/' :: body))) cause := by
  have hword : Stops Char.isAlphanum ('(' :: '/' :: body) := stops_cons (by decide)
  obtain ⟨r, -, hleft, he⟩ := readSpell_eq kind hscope whole hword (stops_cons rfl)
  have hargument : ∃ cause, Fails (readArgument? kind whole r.rest) cause := by
    rw [hleft, readArgument?]
    split
    · exact ⟨_, _, rfl⟩
    · obtain ⟨cause, hfails⟩ := readArgument_fails hshape h ('(' :: '/' :: body)
      exact ⟨cause, hfails.map _⟩
  obtain ⟨cause, hfails⟩ := hargument
  rw [he]
  exact ⟨cause, hfails.map _⟩

theorem spellBody_pattern (kind : Kind) (p : Pattern) (scope : Option Scope) (tail : List Char) :
    spellBody ⟨kind, some (.pattern p), scope, false⟩ ++ tail =
      kind.word.toList ++ (scopeText scope ++ '(' :: '/' ::
        (p.source.toList ++ '/' :: (p.flags.letters ++ ')' :: tail))) := by
  simp [spellBody, argumentText, Argument.written, toList_text_pattern]

/-- **A spell with a literal that does not end is refused.** -/
theorem readOperand_noArgument {kind : Kind} (hshape : kind.shape = .pattern) {scope : Option Scope}
    (hscope : ∀ s ∈ scope, s.IsWellFormed) {p : Pattern} {tail : List Char}
    (htail : Stops continuesSpell tail)
    (h : NoArgument (p.source.toList ++ '/' :: (p.flags.letters ++ ')' :: tail))) (inside : Bool)
    (group : (whole s : List Char) → Except Failure (Reading Group s)) :
    ∃ cause, Fails (readOperand inside group
      ((Clause.spell ⟨kind, some (.pattern p), scope, false⟩).text.toList ++ tail)) cause := by
  have hplain : ∃ cause, Fails (readPlainOperand inside group
      ('#' :: (spellBody ⟨kind, some (.pattern p), scope, false⟩ ++ tail))) cause := by
    rw [readPlainOperand]
    simp only [direction?_spell (stops_alphanum htail)]
    rw [spellBody_pattern]
    obtain ⟨cause, hfails⟩ := readSpell_fails hshape hscope h _
    exact ⟨cause, hfails.map _⟩
  obtain ⟨cause, hfails⟩ := hplain
  rw [toList_text_clause]
  exact ⟨cause, readOperand_fails false (stops_cons rfl) (stops_cons rfl) hfails⟩

/-! ### Documents -/

/-- Behind a text and a line feed, no joiner follows if none follows behind either. -/
theorem stops_skipAny_append {text : List Char} (htext : Stops isJoiner (skipAny text)) :
    ∀ {rest : List Char}, Stops isJoiner (skipAny rest) →
      Stops isJoiner (skipAny (rest ++ '\n' :: text))
  | [], _ => htext
  | c :: rest, h => by
      rw [skipAny, List.dropWhile_cons] at h
      rw [List.cons_append, skipAny, List.dropWhile_cons]
      split
      · rename_i hc
        rw [if_pos hc] at h
        exact stops_skipAny_append htext h
      · rename_i hc
        rw [if_neg hc] at h
        exact stops_cons (h c rfl)

/-- **A statement that fails behind a document stops the reading there.** -/
theorem DocumentText.readStatements_fails {limit : Nat} {statements : List Statement}
    {s text : List Char} {cause : Cause} (h : DocumentText limit statements s)
    (hblank : Stops isAnyBlank text) (hjoiner : Stops isJoiner text) (hne : text ≠ [])
    (hfails : Fails (readStatement limit text) cause) :
    Fails (readStatements limit (s ++ '\n' :: text)) cause := by
  have htext : skipAny text = text := dropWhile_eq_self hblank
  induction h with
  | @blank s h =>
      have hblanks : MadeOf isAnyBlank (s ++ ['\n']) := h.append (madeOf_singleton rfl)
      have hskip : skipAny (s ++ ['\n'] ++ text) = text := skipAny_append hblanks hblank
      rw [List.append_assoc] at hskip
      exact Document.readStatements_fails hskip hne hfails
  | @more statement statements before first after rest hbefore h hafter hend hmore ih =>
      have hend' : EndsLine (rest ++ '\n' :: text) := by
        cases rest with
        | nil => exact endsLine_lineFeed text
        | cons d rest => exact hend
      have hassoc : before ++ (first ++ (after ++ rest)) ++ '\n' :: text =
          before ++ (first ++ (after ++ (rest ++ '\n' :: text))) := by simp
      rw [hassoc, readStatements_more hbefore h hafter hend'
        (stops_skipAny_append (htext.symm ▸ hjoiner) hmore.stops)]
      exact ih.map _

end Document

end PostFilter
