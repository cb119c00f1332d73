import PostFilter.Proofs.Book.Operations
import PostFilter.Proofs.Grammar.Trimmed
import PostFilter.Proofs.Reading.Depth
import PostFilter.Proofs.Verdict.Compiled

/-!
# Rule books — appending

A clause that is appended to a book becomes one more statement at its end, and nothing else
changes. Its text is read back as the clause; behind the trimmed text of the book and a line feed it
is a statement of its own, whatever the last statement of the book is; so the new text, if it is read
at all, is read as the old rules and the clause (`RuleBook.read_extended`). What the rules decide is
what they decided before, or what the clause says.
-/

namespace PostFilter

/-- Whether a clause that is written as a statement is read as itself: a group is negated or has two
members at least. -/
def Clause.IsStatement : Clause → Prop
  | .spell _ => True
  | .group g => g.negated = true ∨ 2 ≤ g.members.length

namespace Document

open Text

/-- The document of one statement. -/
def ofClause (c : Clause) : Document := { filter := some (Group.single c) }

variable {c : Clause} {limits : Limits}

theorem text_of_filter (g : Group) : (Document.mk (some g) [] []).text = g.defaultText := by
  rw [text, lines]
  exact String.toList_inj.1 (by rw [String.toList_intercalate]; simp [Group.defaultText])

theorem text_ofClause (c : Clause) : (ofClause c).text = c.text := text_of_filter (Group.single c)

theorem isWellFormed_of_filter {g : Group} (hnegated : g.negated = false) (h : g.IsWellFormed) :
    (Document.mk (some g) [] []).IsWellFormed :=
  ⟨fun _ hg => Option.some.inj hg ▸ ⟨hnegated, h⟩, fun _ hr => absurd hr List.not_mem_nil,
    fun _ hr => absurd hr List.not_mem_nil⟩

theorem depth_ofClause (c : Clause) : (ofClause c).depth = c.depth := Nat.max_zero c.depth

/-- **The text of a statement is read as the statement.** -/
theorem parse_statementText (hwell : c.IsWellFormed) (hstatement : c.IsStatement)
    (hsize : byteLength (RuleBook.statementText c).toList ≤ limits.size)
    (hdepth : c.depth ≤ limits.depth) :
    parse (RuleBook.statementText c) limits = .ok (ofClause c) := by
  have hsingleWell : (Group.single c).IsWellFormed := ⟨hwell, rfl⟩
  -- A spell and a negated group are written as they would be inside of parentheses.
  have hsingle (htext : c.text = RuleBook.statementText c) :
      parse (RuleBook.statementText c) limits = .ok (ofClause c) :=
    parse_of_text (isWellFormed_of_filter rfl hsingleWell) ((text_ofClause c).trans htext) hsize
      ((depth_ofClause c).trans_le hdepth)
  match c with
  | .spell s => exact hsingle rfl
  | .group ⟨true, members⟩ => exact hsingle rfl
  | .group ⟨false, members⟩ =>
      have hseveral : 2 ≤ members.length := hstatement.resolve_left Bool.false_ne_true
      refine (parse_of_text (isWellFormed_of_filter rfl hwell) (text_of_filter _) hsize
        (Nat.le_trans (Nat.le_succ _) hdepth)).trans ?_
      rw [reread, Option.map_some, Group.reread, if_neg (Nat.ne_of_gt hseveral)]
      rfl

/-- The text of a statement is a document, within limits that its nesting keeps. -/
theorem documentText_statementText (hwell : c.IsWellFormed) (hstatement : c.IsStatement) :
    ∃ statements, DocumentText c.depth statements (RuleBook.statementText c).toList ∧
      ofStatements statements = ofClause c := by
  have hparse : parse (RuleBook.statementText c) ⟨_, c.depth⟩ = .ok (ofClause c) :=
    parse_statementText hwell hstatement (Nat.le_refl _) (Nat.le_refl _)
  obtain ⟨-, statements, htext, hc⟩ := parse_eq_ok_iff.1 hparse
  exact ⟨statements, htext, hc.symm⟩

/-- A text has one reading as a document. -/
theorem DocumentText.unique {levels : Nat} {statements statements' : List Statement}
    {s : List Char} (h : DocumentText levels statements s)
    (h' : DocumentText levels statements' s) : statements = statements' :=
  Except.ok.inj ((readStatements_iff.2 h).symm.trans (readStatements_iff.2 h'))

/-! ### One clause more -/

theorem filter_append_ofClause (d : Document) (c : Clause) :
    (d.append (ofClause c)).filter = some ⟨false, d.rootMembers ++ [⟨c, .or⟩]⟩ := by
  rw [append]
  cases d.filter <;> rfl

/-- Behind members that are joined by `or`, one more brings its value. -/
theorem foldValue?_concat (v : Valuation) (place : Option Place) (c : Clause) :
    ∀ (cs : List Clause) (found : Option Bool),
      Group.foldValue? v place found .or (cs.map (fun c => ⟨c, .or⟩) ++ [⟨c, .or⟩]) =
        Joiner.or.applyPresent
          (Group.foldValue? v place found .or (cs.map fun c => ⟨c, .or⟩)) (c.value? v place)
  | [], _ => rfl
  | d :: cs, found => foldValue?_concat v place c cs (Joiner.or.applyPresent found (d.value? v place))

/-- The value of a filter that joins its members by `or`. -/
theorem getD_value?_or (v : Valuation) (place : Option Place) (members : List Member) :
    (Group.value? v place ⟨false, members⟩).getD false =
      (Group.foldValue? v place none .or members).getD false := by
  rw [Group.value?]
  cases Group.foldValue? v place none .or members with
  | none => rfl
  | some value => exact Bool.bne_false value

theorem isTrueAt_ofStatements (v : Valuation) (place : Place) (statements : List Statement) :
    (ofStatements statements).isTrueAt v place =
      (Group.foldValue? v (some place) none .or (ofStatements statements).rootMembers).getD
        false := by
  have hfilter : (ofStatements statements).filter =
      filterOf (statements.filterMap Statement.clause?) := rfl
  rw [isTrueAt, rootMembers_ofStatements, hfilter, filterOf_eq]
  cases statements.filterMap Statement.clause? with
  | nil => rfl
  | cons d cs => exact getD_value?_or v (some place) _

/-- **Rules with one clause more are true where they were, and where the clause is.** -/
theorem isTrueAt_append (v : Valuation) (place : Place) (statements : List Statement) (c : Clause) :
    ((ofStatements statements).append (ofClause c)).isTrueAt v place =
      ((ofStatements statements).isTrueAt v place || (c.value? v (some place)).getD false) := by
  rw [isTrueAt_ofStatements, isTrueAt, filter_append_ofClause, Option.bind_some, getD_value?_or,
    rootMembers_ofStatements, foldValue?_concat]
  cases Group.foldValue? v (some place) none .or _ <;> cases c.value? v (some place) <;>
    simp [Joiner.applyPresent, Joiner.apply]

end Document

namespace RuleBook

open Document Text

variable {b b' : RuleBook} {c : Clause} {timestamp : UInt64}

theorem statements_eq (b : RuleBook) : b.statements = b.document.rootMembers.map Member.clause := by
  rw [statements, rootMembers]
  cases b.document.filter <;> rfl

/-! ### The text with a statement at its end -/

/-- **The text of a book with a statement behind it** is a document of the book's statements and
this one. -/
theorem documentText_extended {levels : Nat} {statements statements' : List Statement}
    {statement : String} (h : DocumentText levels statements b.source.toList)
    (h' : DocumentText levels statements' statement.toList) :
    DocumentText levels (statements ++ statements') (b.extended statement).toList := by
  obtain ⟨htrimmed, hnil⟩ := h.trimEnd
  rw [extended]
  split
  · rename_i hempty
    rw [hnil hempty]
    exact h'
  · rw [String.toList_append, String.toList_append, String.toList_ofList, List.append_assoc]
    exact htrimmed.append h'

/-- If the text with a clause at its end is read, it is read as the old rules and the clause. -/
theorem read_extended (hb : b.IsRead) (hwell : c.IsWellFormed) (hstatement : c.IsStatement)
    (h : read (b.extended (statementText c)) timestamp = .ok b') :
    b'.document = b.document.append (ofClause c) := by
  obtain ⟨d, hd, rfl⟩ := read_eq_ok_iff.1 h
  obtain ⟨-, statements, hold, hdocument⟩ := parse_eq_ok_iff.1 hb.parse_source
  obtain ⟨-, statements', hnew, hd⟩ := parse_eq_ok_iff.1 hd
  obtain ⟨last, hlast, hc⟩ := documentText_statementText hwell hstatement
  -- The clause may be nested deeper than books are read; the texts are compared within a limit
  -- that is high enough for both.
  have hunique : statements' = statements ++ last :=
    (hnew.mono (Nat.le_max_left _ c.depth)).unique
      (documentText_extended (hold.mono (Nat.le_max_left _ _)) (hlast.mono (Nat.le_max_right _ _)))
  rw [hdocument, ← hc, ← ofStatements_append, ← hunique]
  exact hd

/-- Within the limits a clause is not refused. -/
theorem exists_append_eq_ok (hb : b.IsRead) (hwell : c.IsWellFormed) (hstatement : c.IsStatement)
    (hdepth : c.depth ≤ ({} : Limits).depth)
    (hsize : byteLength (b.extended (statementText c)).toList ≤ ({} : Limits).size)
    (timestamp : UInt64) :
    ∃ outcome b', b.append c timestamp = .ok (outcome, b') := by
  obtain ⟨-, statements, hold, -⟩ := parse_eq_ok_iff.1 hb.parse_source
  obtain ⟨last, hlast, -⟩ := documentText_statementText hwell hstatement
  have hparse : parse (b.extended (statementText c)) = .ok (ofStatements (statements ++ last)) :=
    parse_eq_ok_iff.2 ⟨hsize, _, documentText_extended hold (hlast.mono hdepth), rfl⟩
  cases hany : b.statements.any fun s => s.text == c.text with
  | true => exact ⟨.present, b, append_eq_ok_iff.2 (Or.inl ⟨hany, rfl, rfl⟩)⟩
  | false =>
      exact ⟨.added, _, append_eq_ok_iff.2
        (Or.inr ⟨hany, rfl, read_eq_ok_iff.2 ⟨_, hparse, rfl⟩⟩)⟩

/-- A clause that is nested within the limit is refused only where the text becomes too large. -/
theorem kind_of_append_eq_error (hb : b.IsRead) (hwell : c.IsWellFormed)
    (hstatement : c.IsStatement) (hdepth : c.depth ≤ ({} : Limits).depth) {fault : SourceFault}
    (h : b.append c timestamp = .error fault) : fault.cause.kind = .limitExceeded := by
  by_cases hsize : byteLength (b.extended (statementText c)).toList ≤ ({} : Limits).size
  · obtain ⟨outcome, b', hok⟩ := exists_append_eq_ok hb hwell hstatement hdepth hsize timestamp
    rw [hok] at h
    cases h
  · obtain ⟨position, hparse⟩ := parse_of_lt_size (Nat.lt_of_not_le hsize)
    rw [Except.error.inj ((parse_of_append_eq_error h).symm.trans hparse)]
    rfl

/-! ### Appending -/

/-- What a clause that was added leaves of the book, and what it brings. -/
structure IsAdded (b b' : RuleBook) (c : Clause) : Prop where
  statements : b'.statements = b.statements ++ [c]
  /-- The clause joins the others by `or`. -/
  filter : b'.document.filter = some ⟨false, b.document.rootMembers ++ [⟨c, .or⟩]⟩
  incoming : b'.document.incoming = b.document.incoming
  outgoing : b'.document.outgoing = b.document.outgoing
  /-- A post for which no lookup fails is hidden if it was, or if the clause is true of it. -/
  verdict : ∀ (place : Place) (settings : Settings) (post : Post) (services : Services),
    (b.compile place).isDegraded settings post services = false →
    (b'.compile place).isDegraded settings post services = false →
    (((b'.compile place).verdict settings post).value services).matched =
      ((((b.compile place).verdict settings post).value services).matched ||
        (c.value? (Valuation.ofPost settings post services) (some place)).getD false)
  /-- Adding it again does nothing. -/
  again : ∀ timestamp, b'.append c timestamp = .ok (.present, b')

/-- A clause that was added brings itself and nothing else. -/
theorem isAdded_of_append (hb : b.IsRead) (hwell : c.IsWellFormed) (hstatement : c.IsStatement)
    (h : b.append c timestamp = .ok (.added, b')) : b.IsAdded b' c := by
  have hread : read (b.extended (statementText c)) timestamp = .ok b' := by
    rcases append_eq_ok_iff.1 h with ⟨-, hpresent, -⟩ | ⟨-, -, hread⟩
    · cases hpresent
    · exact hread
  have hdocument := read_extended hb hwell hstatement hread
  have hstatements : b'.statements = b.statements ++ [c] := by
    rw [statements_eq, statements_eq, rootMembers, hdocument, filter_append_ofClause]
    exact List.map_append
  refine
    { statements := hstatements
      filter := hdocument ▸ filter_append_ofClause b.document c
      incoming := hdocument ▸ List.append_nil _
      outgoing := hdocument ▸ List.append_nil _
      verdict := fun place settings post services hold hnew => ?_
      again := fun stamp => append_eq_ok_iff.2 (Or.inl ⟨?_, rfl, rfl⟩) }
  · obtain ⟨-, statements, -, hold'⟩ := parse_eq_ok_iff.1 hb.parse_source
    rw [compile] at hold hnew
    rw [compile, compile, matched_compile hold, matched_compile hnew, hdocument, hold',
      isTrueAt_append]
  · rw [hstatements, List.any_append, List.any_cons, beq_self_eq_true]
    simp

/-- The spell that hides posts by a name. -/
def nameSpell (name : String) (scope : Option Scope) : Spell :=
  { kind := .name, argument := some (.text (Text.trim name)), scope := scope }

theorem isTrimmed_trim (s : String) : Text.IsTrimmed (Text.trim s) := by
  rw [Text.IsTrimmed, Text.trim, Text.trim, String.toList_ofList, Text.trimList_trimList]

theorem isWellFormed_nameSpell {name : String} {scope : Option Scope}
    (hname : Text.trim name ≠ "") (hscope : ∀ s ∈ scope, s.IsWellFormed) :
    (nameSpell name scope).IsWellFormed :=
  ⟨⟨(by decide : Kind.name.requirement ≠ .forbidden), rfl, hname, isTrimmed_trim name⟩, hscope⟩

/-- **An appended clause is one more statement.** Whatever was done with a book that was read, a
clause that is added to it brings itself and nothing else. The spell for a name is refused only at a
limit. -/
theorem append_adds {source : String} {timestamp : UInt64} {b : RuleBook}
    (h : read source timestamp = .ok b) (operations : List (BookOperation × UInt64)) :
    (∀ (c : Clause) (stamp : UInt64) (b' : RuleBook), c.IsWellFormed → c.IsStatement →
      (b.after operations).append c stamp = .ok (.added, b') →
      (b.after operations).IsAdded b' c) ∧
    ∀ (name : String) (scope : Option Scope) (stamp : UInt64), Text.trim name ≠ "" →
      '\n' ∉ (Text.trim name).toList → (∀ s ∈ scope, s.IsWellFormed) →
      (∀ fault, (b.after operations).hideName name scope stamp = .error fault →
        fault.cause.kind = .limitExceeded) ∧
      ∀ b', (b.after operations).hideName name scope stamp = .ok (.added, b') →
        (b.after operations).IsAdded b' (.spell (nameSpell name scope)) := by
  have hb : (b.after operations).IsRead := isRead_after (isRead_of_read h) operations
  refine ⟨fun c stamp b' hwell hstatement => isAdded_of_append hb hwell hstatement,
    fun name scope stamp hname hline hscope => ?_⟩
  have hhide : (b.after operations).hideName name scope stamp =
      (b.after operations).append (.spell (nameSpell name scope)) stamp := by
    refine if_neg ?_
    rw [Bool.or_eq_true, String.isEmpty_iff, List.contains_iff_mem]
    exact not_or.2 ⟨hname, hline⟩
  have hwell : Clause.IsWellFormed (.spell (nameSpell name scope)) :=
    isWellFormed_nameSpell hname hscope
  rw [hhide]
  exact ⟨fun fault => kind_of_append_eq_error hb hwell trivial (Nat.zero_le _),
    fun b' => isAdded_of_append hb hwell trivial⟩

/-- The chain `#sage & #trip` behind `#op`, which was not appended once more, and a name. -/
theorem append_adds_of_chain :
    let op : Clause := .spell { kind := .op }
    let c : Clause :=
      .group ⟨false, [⟨.spell { kind := .sage }, .and⟩, ⟨.spell { kind := .trip }, .or⟩]⟩
    let operations : List (BookOperation × UInt64) := [(.append op, 2)]
    ∃ b b', read "#op" 1 = .ok b ∧
      (b.after operations).append c 3 = .ok (.added, b') ∧ (b.after operations).IsAdded b' c ∧
      ∀ fault, (b.after operations).hideName " x " (some ⟨"b", .anywhere⟩) 3 = .error fault →
        fault.cause.kind = .limitExceeded := by
  intro op c operations
  have hop : op.IsWellFormed :=
    ⟨(by decide : Kind.op.requirement ≠ .required), fun _ hs => (nomatch hs)⟩
  have hc : c.IsWellFormed :=
    ⟨⟨(by decide : Kind.sage.requirement ≠ .required), fun _ hs => (nomatch hs)⟩,
      ⟨(by decide : Kind.trip.requirement ≠ .required), fun _ hs => (nomatch hs)⟩, rfl⟩
  let b : RuleBook := ⟨"#op", 1, ofClause op, (ofClause op).fingerprint⟩
  have hparse : parse (statementText op) = .ok (ofClause op) :=
    parse_statementText hop trivial (by decide +kernel) (Nat.zero_le _)
  have htext : statementText op = "#op" := by decide +kernel
  rw [htext] at hparse
  have hread : read "#op" 1 = .ok b := read_eq_ok_iff.2 ⟨_, hparse, rfl⟩
  have hafter : b.after operations = b := rfl
  obtain ⟨outcome, b', hok⟩ := exists_append_eq_ok (b := b) (c := c) (isRead_of_read hread) hc
    (Or.inr (Nat.le_refl 2)) (by decide) (by decide +kernel) 3
  have hadded : b.append c 3 = .ok (.added, b') := by
    rcases append_eq_ok_iff.1 hok with ⟨hany, -, -⟩ | ⟨-, rfl, -⟩
    · exact absurd hany (by decide)
    · exact hok
  have hscope : ∀ s ∈ (some ⟨"b", .anywhere⟩ : Option Scope), s.IsWellFormed := by
    rintro _ ⟨⟩
    exact ⟨by decide, List.all_eq_true.1 (by decide +kernel)⟩
  obtain ⟨happend, hname⟩ := append_adds hread operations
  refine ⟨b, b', hread, ?_⟩
  rw [hafter] at happend hname ⊢
  exact ⟨hadded, happend c 3 b' hc (Or.inr (Nat.le_refl 2)) hadded,
    (hname " x " _ 3 (by decide) (by decide) hscope).1⟩

end RuleBook

end PostFilter
