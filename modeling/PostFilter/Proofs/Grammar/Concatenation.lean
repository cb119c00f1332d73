import PostFilter.Proofs.Grammar.Documents

/-!
# Documents — texts behind one another

If two texts are documents, then they are one with a line feed between them: the first one ends its
last line there, and the second one begins with no joiner that would go on with it
(`DocumentText.append`). What is read from both is what is read from the first, and behind that what
is read from the second (`Document.parse_append`).
-/

namespace PostFilter

open Text

/-- Members that are joined by `or` do not depend on their place. -/
theorem Group.chainMembers_or : ∀ cs : List Clause,
    chainMembers .or cs = cs.map fun c => ⟨c, .or⟩
  | [] => rfl
  | [_] => rfl
  | c :: d :: rest => by rw [chainMembers, chainMembers_or (d :: rest)]; rfl

namespace Document

/-- The members of the filter; there are none without a filter. -/
def rootMembers (d : Document) : List Member := (d.filter.map Group.members).getD []

/-- Two documents as one, with what the first one holds in front. There is a filter if one of them
has one. -/
def append (d d' : Document) : Document where
  filter :=
    if d.filter.isNone && d'.filter.isNone then none
    else some ⟨false, d.rootMembers ++ d'.rootMembers⟩
  incoming := d.incoming ++ d'.incoming
  outgoing := d.outgoing ++ d'.outgoing

/-! ### Statements -/

theorem rootMembers_ofStatements (statements : List Statement) :
    (ofStatements statements).rootMembers =
      (statements.filterMap Statement.clause?).map fun c => ⟨c, .or⟩ := by
  rw [rootMembers, ofStatements]
  cases statements.filterMap Statement.clause? with
  | nil => rfl
  | cons c cs => exact Group.chainMembers_or (c :: cs)

theorem isNone_filter_ofStatements (statements : List Statement) :
    (ofStatements statements).filter.isNone = (statements.filterMap Statement.clause?).isEmpty := by
  rw [ofStatements]
  cases statements.filterMap Statement.clause? <;> rfl

theorem filterOf_eq (cs : List Clause) :
    filterOf cs = if cs.isEmpty then none else some ⟨false, cs.map fun c => ⟨c, .or⟩⟩ := by
  cases cs with
  | nil => rfl
  | cons c cs =>
      exact congrArg (fun members => some (Group.mk false members))
        (Group.chainMembers_or (c :: cs))

/-- Statements behind one another make the documents behind one another. -/
theorem ofStatements_append (statements statements' : List Statement) :
    ofStatements (statements ++ statements') =
      (ofStatements statements).append (ofStatements statements') := by
  have hempty (cs cs' : List Clause) : (cs ++ cs').isEmpty = (cs.isEmpty && cs'.isEmpty) := by
    cases cs <;> rfl
  have hfilter : filterOf ((statements ++ statements').filterMap Statement.clause?) =
      ((ofStatements statements).append (ofStatements statements')).filter := by
    rw [append, isNone_filter_ofStatements, isNone_filter_ofStatements, rootMembers_ofStatements,
      rootMembers_ofStatements, List.filterMap_append, filterOf_eq, List.map_append, hempty]
  rw [ofStatements, hfilter, List.filterMap_append, List.filterMap_append]
  rfl

/-! ### Texts -/

variable {levels : Nat} {statements statements' : List Statement} {s s' : List Char}

/-- More blanks may stand before a document. -/
theorem DocumentText.behind_blanks {blanks : List Char} (hblanks : MadeOf isAnyBlank blanks)
    (h : DocumentText levels statements s) : DocumentText levels statements (blanks ++ s) := by
  cases h with
  | blank h => exact .blank (hblanks.append h)
  | more hbefore h hafter hend hmore =>
      rw [← List.append_assoc]
      exact .more (hblanks.append hbefore) h hafter hend hmore

/-- **A document may stand behind another one and a line feed.** -/
theorem DocumentText.append (h : DocumentText levels statements s)
    (h' : DocumentText levels statements' s') :
    DocumentText levels (statements ++ statements') (s ++ '\n' :: s') := by
  have hline : DocumentText levels statements' ('\n' :: s') :=
    h'.behind_blanks (madeOf_singleton rfl : MadeOf isAnyBlank ['\n'])
  induction h with
  | blank h => exact hline.behind_blanks h
  | @more statement statements before text after rest hbefore h hafter hend _ ih =>
      have hend : EndsLine (rest ++ '\n' :: s') := by
        cases rest with
        | nil => exact endsLine_lineFeed s'
        | cons d rest => exact hend
      have htext : before ++ (text ++ (after ++ rest)) ++ '\n' :: s' =
          before ++ (text ++ (after ++ (rest ++ '\n' :: s'))) := by simp
      rw [htext]
      exact .more hbefore h hafter hend ih

/-- **What is read from two texts with a line feed between them is what is read from the first, and
then what is read from the second.** -/
theorem parse_append {source source' : String} {limits : Limits} {d d' : Document}
    (h : parse source limits = .ok d) (h' : parse source' limits = .ok d')
    (hsize : byteLength (source ++ "\n" ++ source').toList ≤ limits.size) :
    parse (source ++ "\n" ++ source') limits = .ok (d.append d') := by
  obtain ⟨-, statements, hs, rfl⟩ := parse_eq_ok_iff.1 h
  obtain ⟨-, statements', hs', rfl⟩ := parse_eq_ok_iff.1 h'
  refine parse_eq_ok_iff.2 ⟨hsize, statements ++ statements', ?_,
    (ofStatements_append statements statements').symm⟩
  have htext : (source ++ "\n" ++ source').toList = source.toList ++ '\n' :: source'.toList := by
    rw [String.toList_append, String.toList_append, List.append_assoc]
    rfl
  rw [htext]
  exact hs.append hs'

/-- A chain over two lines, and behind it one that is a single operand. -/
theorem parse_append_of_chains :
    let op : Clause := .spell { kind := .op }
    let sage : Clause := .spell { kind := .sage }
    let trip : Clause := .spell { kind := .trip, negated := true }
    let d : Document := { filter := some (.single (.group ⟨false, [⟨op, .and⟩, ⟨sage, .or⟩]⟩)) }
    let d' : Document := { filter := some (.single trip) }
    parse "#op\n& #sage" = .ok d ∧ parse "!#trip\n" = .ok d' ∧
      byteLength ("#op\n& #sage" ++ "\n" ++ "!#trip\n").toList ≤ 1048576 ∧
      parse ("#op\n& #sage" ++ "\n" ++ "!#trip\n") = .ok (d.append d') := by
  intro op sage trip d d'
  have hop : SpellText { kind := .op } ('#' :: Kind.op.word.toList) := .ofKind (by decide)
  have hsage : SpellText { kind := .sage } ('#' :: Kind.sage.word.toList) := .ofKind (by decide)
  have htrip : SpellText { kind := .trip } ('#' :: Kind.trip.word.toList) := .ofKind (by decide)
  have hchain : StatementText 64 (.clause (.group ⟨false, [⟨op, .and⟩, ⟨sage, .or⟩]⟩))
      (_ ++ (['\n'] ++ '&' :: ([' '] ++ _))) :=
    .chain (Nat.le_refl 2) (.more (.plain (.spell hop)) (madeOf_singleton rfl)
      (madeOf_singleton rfl) (.one (.plain (.spell hsage))))
  have hnegated : StatementText 64 (.clause trip) ('!' :: ([] ++ _)) :=
    .operand (.negated (madeOf_nil _) (.spell htrip))
  have hfirst : DocumentText 64 _ ([] ++ (_ ++ ([] ++ []))) :=
    .more (madeOf_nil _) hchain (madeOf_nil _) endsLine_nil (.blank (madeOf_nil _))
  have hsecond : DocumentText 64 _ ([] ++ (_ ++ ([] ++ ['\n']))) :=
    .more (madeOf_nil _) hnegated (madeOf_nil _) (endsLine_lineFeed [])
      (.blank (madeOf_singleton rfl))
  have h : parse "#op\n& #sage" = .ok d := parse_eq_ok_iff.2 ⟨by decide +kernel, _, hfirst, rfl⟩
  have h' : parse "!#trip\n" = .ok d' := parse_eq_ok_iff.2 ⟨by decide +kernel, _, hsecond, rfl⟩
  have hsize : byteLength ("#op\n& #sage" ++ "\n" ++ "!#trip\n").toList ≤ 1048576 := by
    decide +kernel
  exact ⟨h, h', hsize, parse_append h h' hsize⟩

end Document

end PostFilter
