import PostFilter.Proofs.Grammar.Chains

/-!
# Documents — documents are read by the grammar

A statement is read by the grammar if its line ends behind it and the next line does not begin with
a joiner (`readStatement_begins`, `readStatement_statementText`). In a document no line does, so all
statements of a text are read exactly if the text is a document (`readStatements_iff`).

* `Document.parse_ok_iff_grammar` — what is read, and that no text is two documents.
-/

namespace PostFilter.Document

open Text

/-! ### Replacement rules -/

theorem readReplacement_begins (direction : Direction) (whole s : List Char) :
    Yields (readReplacement direction whole s) fun r => ∃ text, s = text ++ r.rest ∧
      ReplacementText direction r.value ('#' :: (direction.word.toList ++ text)) := by
  rw [readReplacement]
  split
  · exact yields_error _
  · rename_i scope hscope
    obtain ⟨t, ht, hscope⟩ := readScope?_begins s scope hscope
    split
    · exact yields_error _
    · rename_i opening hopening
      have hopening : scope.rest = '(' :: opening.rest := rest_of_sign? hopening
      dsimp only
      split
      · exact yields_error _
      · rename_i p hp
        obtain ⟨core, pattern, hcore, hpattern, hs⟩ := around_of_readPattern hp
        have hhead : s = t ++ '(' :: (pattern ++ (skippedInline p.rest).rest) := calc
          s = t ++ '(' :: opening.rest := ht.trans (congrArg (t ++ ·) hopening)
          _ = _ := congrArg (fun rest => t ++ '(' :: rest) hs
        split
        · rename_i comma hcomma
          have hcomma : (skippedInline p.rest).rest = ',' :: comma.rest := rest_of_sign? hcomma
          intro r hr
          obtain ⟨text, htext, rfl⟩ := map_eq_ok_iff.1 hr
          obtain ⟨raw, hraw, hrest⟩ := escapedText_of_readText htext
          have hs : s = t ++ '(' :: (pattern ++ (',' :: raw ++ [')'])) ++ text.rest := calc
            s = t ++ '(' :: (pattern ++ ',' :: comma.rest) := by rw [← hcomma]; exact hhead
            _ = t ++ '(' :: (pattern ++ ',' :: (raw ++ ')' :: text.rest)) :=
              congrArg (fun rest => t ++ '(' :: (pattern ++ ',' :: rest)) hrest
            _ = _ := by simp
          exact ⟨_, hs, .mk hscope hcore hpattern (.some hraw)⟩
        · intro r hr
          obtain ⟨close, hclose, rfl⟩ := map_eq_ok_iff.1 hr
          have hclose : (skippedInline p.rest).rest = ')' :: close.rest := eq_of_readClose hclose
          have hs : s = t ++ '(' :: (pattern ++ ([] ++ [')'])) ++ close.rest := calc
            s = t ++ '(' :: (pattern ++ ')' :: close.rest) := by rw [← hclose]; exact hhead
            _ = _ := by simp
          exact ⟨_, hs, .mk hscope hcore hpattern .none⟩

/-- What stands behind a pattern in a rule neither is blank nor goes on with its flags. -/
theorem stops_templateText {text raw : List Char} (h : TemplateText text raw) {p : Char → Bool}
    (hp : p ',' = false ∧ p ')' = false) (rest : List Char) : Stops p (raw ++ ')' :: rest) := by
  cases h with
  | none => exact stops_cons hp.2
  | some => exact stops_cons hp.1

theorem readReplacement_replacementText {direction : Direction} {rule : Replacement}
    {text : List Char}
    (h : ReplacementText direction rule ('#' :: (direction.word.toList ++ text)))
    (whole rest : List Char) :
    Reads (readReplacement direction whole (text ++ rest)) rule rest := by
  generalize hmark : '#' :: (direction.word.toList ++ text) = marked at h
  cases h with
  | @mk scope p template s core pattern raw hscope hcore hpattern htemplate =>
      obtain rfl := List.append_cancel_left (List.tail_eq_of_cons_eq hmark)
      have htext : s ++ '(' :: (pattern ++ (raw ++ [')'])) ++ rest =
          s ++ '(' :: (pattern ++ (raw ++ ')' :: rest)) := by simp
      obtain ⟨r, hr, hrvalue, hrleft⟩ : Reads (readScope? (s ++ '(' :: (pattern ++
          (raw ++ ')' :: rest)))) scope ('(' :: (pattern ++ (raw ++ ')' :: rest))) :=
        readScope?_scopeText hscope (stops_cons rfl)
      obtain ⟨opening, hopening, hbehind⟩ := sign?_of_rest_cons hrleft
      have hflags : Stops Char.isAlpha (raw ++ ')' :: rest) :=
        stops_templateText htemplate (by decide) rest
      have hread := readPattern_around hcore hpattern
        (stops_templateText htemplate (by decide) rest) hflags
      rw [← hbehind] at hread
      obtain ⟨q, hq, hqvalue, hqleft⟩ := hread
      have hq : readPattern (opening.andThen (skippedInline opening.rest)).rest = .ok q := hq
      -- Only a rule with a comma has a template that is read.
      cases htemplate with
      | none =>
          have hclosed : (((opening.andThen (skippedInline opening.rest)).andThen q).andThen
              (skippedInline q.rest)).rest = ')' :: rest := hqleft
          have hcomma := sign?_eq_none (c := ',') (by rw [hclosed]; exact stops_cons rfl)
          have hclose : Reads (readClose r.rest (((opening.andThen
              (skippedInline opening.rest)).andThen q).andThen (skippedInline q.rest)).rest) ()
              rest := by
            rw [hclosed]
            exact readClose_append r.rest rest
          obtain ⟨close, hclose, -, hleft⟩ := hclose
          rw [htext, readReplacement, hr]
          simp only [hopening, hq, hcomma, hclose]
          refine ⟨_, rfl, ?_, hleft⟩
          simp [Reading.andThen, Reading.map, hrvalue, hqvalue]
      | @some _ raw h =>
          have hcomma : (((opening.andThen (skippedInline opening.rest)).andThen q).andThen
              (skippedInline q.rest)).rest = ',' :: (raw ++ ')' :: rest) := hqleft
          obtain ⟨comma, hcomma, hcommaleft⟩ := sign?_of_rest_cons hcomma
          have hread : Reads (readText r.rest comma.rest) template rest := by
            rw [hcommaleft]
            exact readText_escapedText h r.rest rest
          obtain ⟨t, ht, htvalue, htleft⟩ := hread
          rw [htext, readReplacement, hr]
          simp only [hopening, hq, hcomma, ht]
          refine ⟨_, rfl, ?_, htleft⟩
          simp [Reading.andThen, Reading.map, hrvalue, hqvalue, htvalue]

theorem endsLine_nil : EndsLine [] := fun _ hc => by cases hc

theorem endsLine_lineFeed (rest : List Char) : EndsLine ('\n' :: rest) :=
  fun _ hc => (Option.some.inj hc).symm

theorem readReplacementEnd_begins (s : List Char) :
    Yields (readReplacementEnd s) fun r => EndsLine r.rest ∧
      ∃ after, MadeOf isInlineBlank after ∧ s = after ++ r.rest := by
  obtain ⟨after, hafter, hs⟩ := exists_skipInline s
  rw [readReplacementEnd]
  split
  · rename_i hnone
    refine yields_ok ⟨?_, after, hafter, hs⟩
    rw [List.head?_eq_none_iff.1 hnone]
    exact endsLine_nil
  · rename_i c hc
    split
    · rename_i hline
      dsimp only
      split
      · exact yields_error _
      · refine yields_ok ⟨fun d hd => ?_, after, hafter, hs⟩
        rw [hc] at hd
        cases hd
        exact eq_of_beq hline
    · split
      · exact yields_error _
      · exact yields_error _

theorem readReplacementEnd_endsLine {after rest : List Char} (hafter : MadeOf isInlineBlank after)
    (hend : EndsLine rest) (hnext : Stops isJoiner (skipAny rest)) :
    Reads (readReplacementEnd (after ++ rest)) () rest := by
  have hstops : Stops isInlineBlank rest := fun c hc => by rw [hend c hc]; rfl
  have hline : (skippedInline (after ++ rest)).rest = rest := skipInline_append hafter hstops
  rw [readReplacementEnd]
  cases rest with
  | nil =>
      simp only [hline, List.head?_nil]
      exact ⟨_, rfl, rfl, hline⟩
  | cons c rest =>
      obtain rfl := hend c rfl
      have hjoiner : ((skipAny ('\n' :: rest)).head?.any fun c => (joiner? c).isSome) = false := by
        cases hhead : (skipAny ('\n' :: rest)).head? with
        | none => rfl
        | some d => exact hnext d hhead
      simp only [hline, List.head?_cons, hjoiner]
      exact ⟨_, rfl, rfl, hline⟩

/-! ### Statements -/

theorem statementText_of_chainText {levels : Nat} {members : List Member} {text : List Char}
    (h : ChainText (OperandText false (GroupTextWithin levels)) members text) :
    StatementText levels (.clause (statementClause members)) text := by
  cases h with
  | one h => exact .operand h
  | more h hbefore hafter hmore =>
      cases hmore with
      | one hmore => exact .chain (Nat.le_refl 2) (.more h hbefore hafter (.one hmore))
      | more hnext hbefore' hafter' hmore =>
          exact .chain (Nat.le_add_left 2 _)
            (.more h hbefore hafter (.more hnext hbefore' hafter' hmore))

/-- A statement of spells is a chain, of which it has the clause. -/
theorem StatementText.exists_chain {levels : Nat} {c : Clause} {text : List Char}
    (h : StatementText levels (.clause c) text) :
    ∃ members, ChainText (OperandText false (GroupTextWithin levels)) members text ∧
      statementClause members = c := by
  cases h with
  | operand h => exact ⟨_, .one h, rfl⟩
  | @chain members _ hseveral h =>
      refine ⟨members, h, ?_⟩
      match members, hseveral with
      | _ :: _ :: _, _ => rfl

theorem eq_of_direction? {s : List Char} {direction : Direction}
    (h : direction? s = some direction) :
    ∃ rest, s = '#' :: rest ∧ (readWord rest).value = direction.word.toList := by
  rw [direction?.eq_def] at h
  split at h
  · rename_i rest
    refine ⟨rest, rfl, ?_⟩
    dsimp only at h
    split at h
    · rename_i hword
      cases h
      rw [← String.toList_ofList (l := (readWord rest).value), eq_of_beq hword]
      rfl
    · split at h
      · rename_i hword
        cases h
        rw [← String.toList_ofList (l := (readWord rest).value), eq_of_beq hword]
        rfl
      · cases h
  · cases h

theorem readWord_replacement {direction : Direction} {rule : Replacement} {text : List Char}
    (h : ReplacementText direction rule ('#' :: (direction.word.toList ++ text)))
    (rest : List Char) :
    (readWord (direction.word.toList ++ text ++ rest)).value = direction.word.toList ∧
      (readWord (direction.word.toList ++ text ++ rest)).rest = text ++ rest := by
  rw [List.append_assoc]
  refine readWord_append (List.all_eq_true.1 (by cases direction <;> decide)) ?_
  generalize hmark : '#' :: (direction.word.toList ++ text) = marked at h
  cases h with
  | mk hscope =>
      obtain rfl := List.append_cancel_left (List.tail_eq_of_cons_eq hmark)
      rw [List.append_assoc]
      exact stops_optionalScopeText (by decide) hscope (stops_cons (by decide))

theorem direction?_replacementText {direction : Direction} {rule : Replacement} {text : List Char}
    (h : ReplacementText direction rule ('#' :: (direction.word.toList ++ text)))
    (rest : List Char) :
    direction? ('#' :: (direction.word.toList ++ text ++ rest)) = some direction := by
  rw [direction?]
  simp only [(readWord_replacement h rest).1, String.ofList_toList]
  cases direction <;> rfl

theorem ReplacementText.exists_body {direction : Direction} {rule : Replacement}
    {text : List Char} : ReplacementText direction rule text →
      ∃ body, text = '#' :: (direction.word.toList ++ body)
  | .mk .. => ⟨_, rfl⟩

theorem direction?_operandText {levels : Nat} {c : Clause} {text rest : List Char}
    (h : OperandText false (GroupTextWithin levels) c text) (hrest : Stops Char.isAlphanum rest) :
    direction? (text ++ rest) = none := by
  cases h with
  | plain h =>
      cases h with
      | spell h => exact direction?_spellText h hrest
      | group h =>
          obtain ⟨s, rfl⟩ := GroupTextWithin.eq_cons h
          rfl
  | negated => rfl

/-- A chain is not taken for a replacement rule. -/
theorem direction?_chainText {levels : Nat} {members : List Member} {text rest : List Char}
    (h : ChainText (OperandText false (GroupTextWithin levels)) members text)
    (hrest : Stops Char.isAlphanum rest) : direction? (text ++ rest) = none := by
  cases h with
  | one h => exact direction?_operandText h hrest
  | @more c joiner members s before after t h hbefore =>
      have hsign : Stops Char.isAlphanum (joiner.sign :: (after ++ t) ++ rest) :=
        stops_cons (by cases joiner <;> decide)
      rw [List.append_assoc, List.append_assoc]
      refine direction?_operandText h (hbefore.stops (fun d hd => ?_) hsign)
      rcases isAnyBlank_eq hd with rfl | rfl | rfl | rfl <;> decide

theorem readStatement_begins (limit : Nat) (s : List Char) :
    Yields (readStatement limit s) fun t => EndsLine t.rest ∧
      ∃ blanks text after, MadeOf isInlineBlank blanks ∧ MadeOf isInlineBlank after ∧
        s = blanks ++ (text ++ (after ++ t.rest)) ∧ StatementText limit t.value text := by
  rw [readStatement.eq_def]
  split
  · exact yields_error _
  · rename_i c rest
    split
    · rename_i direction hdirection
      obtain ⟨rest', heq, hword⟩ := eq_of_direction? hdirection
      cases heq
      dsimp only
      split
      · exact yields_error _
      · rename_i rule hrule
        refine yields_map (readReplacementEnd_begins rule.rest) fun line hline => ?_
        obtain ⟨hend, after, hafter, hrest⟩ := hline
        obtain ⟨text, hs, htext⟩ := readReplacement_begins direction _ _ rule hrule
        have hs : '#' :: rest =
            '#' :: (direction.word.toList ++ text) ++ (after ++ line.rest) := calc
          '#' :: rest = '#' :: ((readWord rest).value ++ (readWord rest).rest) :=
            congrArg (List.cons '#') List.takeWhile_append_dropWhile.symm
          _ = '#' :: (direction.word.toList ++ (text ++ rule.rest)) := by rw [hword, ← hs]
          _ = '#' :: (direction.word.toList ++ (text ++ (after ++ line.rest))) :=
            congrArg (fun rest => '#' :: (direction.word.toList ++ (text ++ rest))) hrest
          _ = _ := by simp
        exact ⟨hend, [], _, after, madeOf_nil _, hafter, hs, .replacement htext⟩
    · split
      · exact yields_error _
      · rename_i chain hchain
        obtain ⟨hend, blanks, text, after, hblanks, hafter, hs, htext⟩ :=
          readChain_begins (readOperand_begins (readGroupWithin_begins limit limit)) _ chain hchain
        split
        · exact yields_error _
        · rename_i hclose
          refine yields_ok ⟨fun d hd => (hend d hd).resolve_left ?_, blanks, text, after, hblanks,
            hafter, hs, statementText_of_chainText htext⟩
          rintro rfl
          exact hclose (beq_iff_eq.2 hd)

/-- **A statement is read by the grammar**, if its line ends behind it and no joiner follows. -/
theorem readStatement_statementText {limit : Nat} {statement : Statement}
    {text after rest : List Char} (h : StatementText limit statement text)
    (hafter : MadeOf isInlineBlank after) (hend : EndsLine rest)
    (hnext : Stops isJoiner (skipAny rest)) :
    Takes (readStatement limit (text ++ (after ++ rest))) statement rest := by
  cases statement with
  | clause c =>
      obtain ⟨members, hchain, rfl⟩ := h.exists_chain
      have hbegins : BeginsOperand (OperandText false (GroupTextWithin limit)) :=
        beginsOperand_operandText GroupTextWithin.eq_cons
      have hline {p : Char → Bool} (hp : p '\n' = false) : Stops p rest :=
        fun d hd => by rw [hend d hd, hp]
      have hspell : Stops continuesSpell (after ++ rest) :=
        stops_continuesSpell (hafter.mono fun _ => isAnyBlank_of_isInlineBlank) (hline rfl)
      have hended : Reads (readJoiner? false (after ++ rest)) none rest :=
        readJoiner?_ended (skippedBlanks_append hafter (hline rfl))
          (fun d hd => Or.inr (hend d hd)) hnext
      have hread := readChain_chainText hbegins
        (readOperand_operandText GroupTextWithin.eq_cons (readGroupWithin_groupText limit)) hended
        hspell hchain (madeOf_nil _)
      have hdirection := direction?_chainText hchain (stops_alphanum hspell)
      obtain ⟨d, tail, rfl, -⟩ := hchain.begins hbegins
      exact readStatement_chain hdirection (List.cons_ne_nil _ _) (hline rfl) hread
  | replacement direction rule =>
      cases h with
      | replacement h =>
          obtain ⟨body, rfl⟩ := h.exists_body
          have hrule := readReplacement_replacementText h
            ('#' :: (direction.word.toList ++ body ++ (after ++ rest))) (after ++ rest)
          rw [← (readWord_replacement h (after ++ rest)).2] at hrule
          obtain ⟨r, hr, hvalue, hleft⟩ := hrule
          have hline : Reads (readReplacementEnd r.rest) () rest := by
            rw [hleft]
            exact readReplacementEnd_endsLine hafter hend hnext
          obtain ⟨e, he, -, heleft⟩ := hline
          have hdirection := direction?_replacementText h (after ++ rest)
          rw [List.cons_append, readStatement]
          simp only [hdirection, hr, he]
          refine ⟨_, rfl, ?_, heleft⟩
          simp [Reading.andThen, Reading.map, Reading.takenPast, hvalue]

/-! ### Documents -/

theorem StatementText.begins {levels : Nat} {statement : Statement} {text : List Char}
    (h : StatementText levels statement text) :
    ∃ d tail, text = d :: tail ∧ beginsOperand d = true := by
  cases statement with
  | clause c =>
      obtain ⟨members, hchain, rfl⟩ := h.exists_chain
      exact hchain.begins (beginsOperand_operandText GroupTextWithin.eq_cons)
  | replacement direction rule =>
      cases h with
      | replacement h =>
          obtain ⟨body, rfl⟩ := h.exists_body
          exact ⟨'#', _, rfl, rfl⟩

/-- The blanks before a statement end at it. -/
theorem StatementText.skipAny {levels : Nat} {statement : Statement} {text before : List Char}
    (h : StatementText levels statement text) (hbefore : MadeOf isAnyBlank before)
    (rest : List Char) : skipAny (before ++ (text ++ rest)) = text ++ rest := by
  obtain ⟨d, tail, rfl, hd⟩ := h.begins
  exact skipAny_append hbefore (stops_of_beginsOperand (by decide) hd _)

/-- No document begins with a joiner. -/
theorem DocumentText.stops {levels : Nat} {statements : List Statement} {s : List Char}
    (h : DocumentText levels statements s) : Stops isJoiner (skipAny s) := by
  cases h with
  | blank h =>
      rw [Document.skipAny, List.dropWhile_eq_nil_iff.2 h]
      exact stops_nil
  | more hbefore h =>
      rw [h.skipAny hbefore]
      obtain ⟨d, tail, rfl, hd⟩ := h.begins
      exact stops_of_beginsOperand (by decide) hd _

theorem documentText_of_readStatements (limit : Nat) (s : List Char) :
    Yields (readStatements limit s) fun statements => DocumentText limit statements s := by
  fun_induction readStatements limit s with
  | case1 s start hempty =>
      obtain ⟨blanks, hblanks, hs⟩ := exists_skipAny s
      rw [List.isEmpty_iff.1 (show (skipAny s).isEmpty = true from hempty), List.append_nil] at hs
      rw [hs]
      exact yields_ok (.blank hblanks)
  | case2 => exact yields_error _
  | case3 => exact yields_error _
  | case4 s start hne statement hstatement _ _ more hmore ih =>
      obtain ⟨before, hbefore, hs⟩ := exists_skipAny s
      obtain ⟨hend, blanks, text, after, hblanks, hafter, hstart, htext⟩ :=
        readStatement_begins limit _ statement hstatement
      have hs : s = before ++ blanks ++ (text ++ (after ++ statement.rest)) := calc
        s = before ++ (blanks ++ (text ++ (after ++ statement.rest))) :=
          hs.trans (congrArg (before ++ ·) hstart)
        _ = _ := by simp
      have hlead := hbefore.append (hblanks.mono fun _ => isAnyBlank_of_isInlineBlank)
      have hdocument : DocumentText limit (statement.value :: more) _ :=
        .more hlead htext hafter hend (ih more hmore)
      rw [← hs] at hdocument
      exact yields_ok hdocument

/-- A statement at the front is read, and the reading goes on behind its line. -/
theorem readStatements_more {limit : Nat} {statement : Statement}
    {before text after rest : List Char} (hbefore : MadeOf isAnyBlank before)
    (h : StatementText limit statement text) (hafter : MadeOf isInlineBlank after)
    (hend : EndsLine rest) (hnext : Stops isJoiner (skipAny rest)) :
    readStatements limit (before ++ (text ++ (after ++ rest))) =
      (readStatements limit rest).map (statement :: ·) := by
  have hstart : (skippedAny (before ++ (text ++ (after ++ rest)))).rest =
      text ++ (after ++ rest) := h.skipAny hbefore _
  have hne : (skippedAny (before ++ (text ++ (after ++ rest)))).rest.isEmpty = false := by
    obtain ⟨d, tail, rfl, -⟩ := h.begins
    rw [hstart]
    rfl
  have hread := readStatement_statementText h hafter hend hnext
  rw [← hstart] at hread
  obtain ⟨t, ht, hvalue, hleft⟩ := hread
  rw [readStatements]
  simp only [hne, ht, hvalue, hleft]
  cases readStatements limit rest <;> rfl

theorem readStatements_documentText {limit : Nat} {statements : List Statement} {s : List Char}
    (h : DocumentText limit statements s) : readStatements limit s = .ok statements := by
  induction h with
  | blank h =>
      have hempty : (skippedAny _).rest.isEmpty = true :=
        List.isEmpty_iff.2 (List.dropWhile_eq_nil_iff.2 h)
      rw [readStatements]
      simp only [hempty]
      rfl
  | more hbefore h hafter hend hmore ih =>
      rw [readStatements_more hbefore h hafter hend hmore.stops, ih]
      rfl

/-- **All statements of a text are read exactly if the text is a document of them.** -/
theorem readStatements_iff {limit : Nat} {statements : List Statement} {s : List Char} :
    readStatements limit s = .ok statements ↔ DocumentText limit statements s :=
  ⟨fun h => documentText_of_readStatements limit s _ h, readStatements_documentText⟩

theorem parse_eq_ok_iff {source : String} {limits : Limits} {d : Document} :
    parse source limits = .ok d ↔ byteLength source.toList ≤ limits.size ∧
      ∃ statements, DocumentText limits.depth statements source.toList ∧
        d = ofStatements statements := by
  have hparse : parse source limits = .ok d ↔ readDocument limits source.toList = .ok d := by
    rw [parse]
    cases readDocument limits source.toList with
    | error failure => exact ⟨fun h => (by cases h), fun h => (by cases h)⟩
    | ok d' => exact ⟨fun h => congrArg _ (Except.ok.inj h), fun h => congrArg _ (Except.ok.inj h)⟩
  rw [hparse, readDocument]
  constructor
  · intro h
    split at h
    · cases h
    · rename_i hsize
      obtain ⟨statements, hread, rfl⟩ := map_eq_ok_iff.1 h
      exact ⟨Nat.not_lt.1 hsize, statements, readStatements_iff.1 hread, rfl⟩
  · rintro ⟨hsize, statements, h, rfl⟩
    rw [if_neg (Nat.not_lt.2 hsize)]
    exact map_eq_ok_iff.2 ⟨statements, readStatements_iff.2 h, rfl⟩

/-- **A text is read exactly if it is no larger than the limit and a document by the grammar**, with
parentheses nested no deeper than the limit. What is read is what the statements of the document
come to, and no text is a document of other statements as well. -/
theorem parse_ok_iff_grammar (source : String) (limits : Limits) :
    (∀ d, parse source limits = .ok d ↔ byteLength source.toList ≤ limits.size ∧
      ∃ statements, DocumentText limits.depth statements source.toList ∧
        d = ofStatements statements) ∧
    ∀ statements statements', DocumentText limits.depth statements source.toList →
      DocumentText limits.depth statements' source.toList → statements = statements' := by
  refine ⟨fun d => parse_eq_ok_iff, fun statements statements' h h' => ?_⟩
  have hread := readStatements_documentText h
  exact Except.ok.inj (hread.symm.trans (readStatements_documentText h'))

/-- A group over two lines is a document, and of one statement only. -/
theorem parse_ok_iff_grammar_of_group :
    let op : Clause := .spell { kind := .op }
    let trip : Clause := .spell { kind := .trip }
    let d : Document := { filter := some (.single (.group ⟨true, [⟨op, .or⟩, ⟨trip, .or⟩]⟩)) }
    parse "!(#op |\n#trip)\n" { depth := 1 } = .ok d ∧
      ∃! statements, DocumentText 1 statements "!(#op |\n#trip)\n".toList := by
  intro op trip d
  have hop : SpellText { kind := .op } ('#' :: Kind.op.word.toList) := .ofKind (by decide)
  have htrip : SpellText { kind := .trip } ('#' :: Kind.trip.word.toList) := .ofKind (by decide)
  have hspells : ChainText (OperandText true (GroupTextWithin 0)) [⟨op, .or⟩, ⟨trip, .or⟩]
      (_ ++ ([' '] ++ '|' :: (['\n'] ++ _))) :=
    .more (.plain (.spell hop)) (madeOf_singleton rfl) (madeOf_singleton rfl)
      (.one (.plain (.spell htrip)))
  have hgroup : GroupTextWithin 1 ⟨false, [⟨op, .or⟩, ⟨trip, .or⟩]⟩
      ('(' :: ([] ++ (_ ++ ([] ++ [')'])))) := .mk (madeOf_nil _) hspells (madeOf_nil _)
  have hclause : OperandText false (GroupTextWithin 1)
      (.group ⟨true, [⟨op, .or⟩, ⟨trip, .or⟩]⟩) ('!' :: ([] ++ _)) :=
    .negated (madeOf_nil _) (.group hgroup)
  have hdocument : DocumentText 1 [.clause (.group ⟨true, [⟨op, .or⟩, ⟨trip, .or⟩]⟩)]
      ([] ++ (_ ++ ([] ++ ['\n']))) :=
    .more (madeOf_nil _) (.operand hclause) (madeOf_nil _) (endsLine_lineFeed [])
      (.blank (madeOf_singleton rfl))
  have hsize : byteLength "!(#op |\n#trip)\n".toList ≤ 1048576 := by decide +kernel
  obtain ⟨hiff, hunique⟩ := parse_ok_iff_grammar "!(#op |\n#trip)\n" { depth := 1 }
  exact ⟨(hiff d).2 ⟨hsize, _, hdocument, rfl⟩, _, hdocument,
    fun statements h => hunique _ _ h hdocument⟩

end PostFilter.Document
