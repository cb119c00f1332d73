import PostFilter.Proofs.Reading.Documents

/-!
# Documents — a text is written for one document only

Two lists of lines that make the same text are read alike: each line is a statement that leaves what
is behind it, so the first lines are the same, and so are those behind them (`lines_injective`).
Hence readable documents with the same written form have the same replacement rules, and filters
that are the same statement (`text_injective`).
-/

namespace PostFilter.Document

open Text

/-! ### Lines -/

/-- A result is read as one value and leaves one rest. -/
theorem takes_unique {α : Type} {s : List Char} {result : Except Failure (Taking α s)}
    {value value' : α} {rest rest' : List Char} (h : Takes result value rest)
    (h' : Takes result value' rest') : value = value' ∧ rest = rest' := by
  obtain ⟨t, ht, rfl, rfl⟩ := h
  obtain ⟨t', ht', rfl, rfl⟩ := h'
  cases ht.symm.trans ht'
  exact ⟨rfl, rfl⟩

/-- The first line of a text is a statement in one way only. -/
theorem statement_unique {limit : Nat} {text text' rest rest' : List Char}
    {statement statement' : Statement} (h : IsStatement limit text statement)
    (h' : IsStatement limit text' statement') (hrest : EndsStatement rest)
    (hrest' : EndsStatement rest') (heq : text ++ rest = text' ++ rest') :
    (text, statement) = (text', statement') ∧ rest = rest' := by
  have hread := h.reads rest hrest
  rw [heq] at hread
  obtain ⟨rfl, rfl⟩ := takes_unique hread (h'.reads rest' hrest')
  rw [List.append_cancel_right heq]
  exact ⟨rfl, rfl⟩

theorem linesBehind_injective (limit : Nat) : ∀ (lines lines' : List (List Char × Statement)),
    (∀ l ∈ lines, IsStatement limit l.1 l.2) → (∀ l ∈ lines', IsStatement limit l.1 l.2) →
    (∀ l ∈ lines, ∃ more, l.1 = '#' :: more) → (∀ l ∈ lines', ∃ more, l.1 = '#' :: more) →
    linesBehind (lines.map Prod.fst) = linesBehind (lines'.map Prod.fst) → lines = lines'
  | [], [], _, _, _, _, _ => rfl
  | [], l' :: lines', _, _, _, _, heq => by cases heq
  | l :: lines, [], _, _, _, _, heq => by cases heq
  | l :: lines, l' :: lines', h, h', hmark, hmark', heq => by
      rw [List.forall_mem_cons] at h h' hmark hmark'
      rw [List.map_cons, List.map_cons, linesBehind, linesBehind] at heq
      -- The first statements are read from one text, so they are the same and so is what is left.
      obtain ⟨hl, hlines⟩ := statement_unique h.1 h'.1 (endsStatement_linesBehind hmark.2)
        (endsStatement_linesBehind hmark'.2) (List.tail_eq_of_cons_eq heq)
      rw [linesBehind_injective limit lines lines' h.2 h'.2 hmark.2 hmark'.2 hlines]
      exact congrArg (· :: lines') hl

/-- **Lines that make the same text are the same.** -/
theorem lines_injective (limit : Nat) (lines lines' : List (List Char × Statement))
    (h : ∀ l ∈ lines, IsStatement limit l.1 l.2) (h' : ∀ l ∈ lines', IsStatement limit l.1 l.2)
    (hmark : ∀ l ∈ lines.tail, ∃ more, l.1 = '#' :: more)
    (hmark' : ∀ l ∈ lines'.tail, ∃ more, l.1 = '#' :: more)
    (heq : (['\n'] : List Char).intercalate (lines.map Prod.fst) =
      (['\n'] : List Char).intercalate (lines'.map Prod.fst)) : lines = lines' := by
  match lines, lines' with
  | [], [] => rfl
  | [], l' :: lines' =>
      rw [List.map_cons, intercalate_lines] at heq
      exact absurd (List.append_eq_nil_iff.1 heq.symm).1 (h' l' List.mem_cons_self).nonempty
  | l :: lines, [] =>
      rw [List.map_cons, intercalate_lines] at heq
      exact absurd (List.append_eq_nil_iff.1 heq).1 (h l List.mem_cons_self).nonempty
  | l :: lines, l' :: lines' =>
      rw [List.forall_mem_cons] at h h'
      rw [List.map_cons, List.map_cons, intercalate_lines, intercalate_lines] at heq
      obtain ⟨hl, hlines⟩ := statement_unique h.1 h'.1 (endsStatement_linesBehind hmark)
        (endsStatement_linesBehind hmark') heq
      rw [linesBehind_injective limit lines lines' h.2 h'.2 hmark hmark' hlines]
      exact congrArg (· :: lines') hl

/-! ### Documents -/

theorem escape_injective {a b : List Char} (h : escape a = escape b) : a = b := by
  have ha := scanText_escape [] a
  rw [h, scanText_escape [] b] at ha
  cases ha
  rfl

/-- A rule is determined by how it is written and how it is read. -/
theorem rule_injective {direction : Direction} {rule rule' : Replacement}
    (htext : (rule.text direction).toList = (rule'.text direction).toList)
    (hread : rereadRule rule = rereadRule rule') : rule = rule' := by
  obtain ⟨scope, pattern, template⟩ := rule
  obtain ⟨scope', pattern', template'⟩ := rule'
  obtain ⟨rfl, rfl, -⟩ := Replacement.mk.injEq .. ▸ hread
  have h := toList_text_rule direction ⟨scope, pattern, template⟩ []
  have h' := toList_text_rule direction ⟨scope, pattern, template'⟩ []
  rw [List.append_nil] at h h'
  rw [h, h', ruleHead, ruleHead] at htext
  simp only [List.cons.injEq, List.append_cancel_left_eq, true_and] at htext
  -- The rules share their heads, so their texts can differ in the templates only.
  have hescape : escape template.toList = escape template'.toList :=
    List.append_cancel_right htext
  rw [String.toList_inj.1 (escape_injective hescape)]

/-- The lines of a document that hold its rules of one direction. -/
def ruleLines (direction : Direction) (lines : List (List Char × Statement)) :
    List (List Char × Replacement) :=
  lines.filterMap fun l => (l.2.replacement? direction).map fun rule => (l.1, rule)

/-- Of the lines of rules of one direction, those of the same direction are all. -/
theorem ruleLines_rules (wanted direction : Direction) (rules : List Replacement) :
    ruleLines wanted (rules.map fun rule =>
        ((rule.text direction).toList, .replacement direction (rereadRule rule))) =
      if direction = wanted then
        rules.map fun rule => ((rule.text direction).toList, rereadRule rule)
      else [] := by
  have hline (rule : Replacement) :
      (Statement.replacement direction (rereadRule rule)).replacement? wanted =
        if direction = wanted then some (rereadRule rule) else none := rfl
  induction rules with
  | nil => rw [List.map_nil, List.map_nil, ite_self]; rfl
  | cons rule rules ih =>
      rw [List.map_cons, ruleLines, List.filterMap_cons, ← ruleLines, ih, hline]
      by_cases h : direction = wanted
      · rw [if_pos h, if_pos h, if_pos h]
        rfl
      · rw [if_neg h, if_neg h, if_neg h]
        rfl

theorem ruleLines_readLines (layout : Layout) (d : Document) :
    ruleLines .incoming (readLines layout d) =
        d.incoming.map (fun rule => ((rule.text .incoming).toList, rereadRule rule)) ∧
      ruleLines .outgoing (readLines layout d) =
        d.outgoing.map fun rule => ((rule.text .outgoing).toList, rereadRule rule) := by
  have hlines (wanted : Direction) : ruleLines wanted (readLines layout d) =
      ruleLines wanted (d.incoming.map fun rule =>
          ((rule.text .incoming).toList, .replacement .incoming (rereadRule rule))) ++
        ruleLines wanted (d.outgoing.map fun rule =>
          ((rule.text .outgoing).toList, .replacement .outgoing (rereadRule rule))) := by
    rw [readLines, ruleLines, List.filterMap_append, List.filterMap_append]
    cases d.filter <;> rfl
  have hdirections : Direction.incoming ≠ Direction.outgoing := by decide
  constructor
  · rw [hlines, ruleLines_rules, ruleLines_rules, if_pos rfl, if_neg hdirections.symm,
      List.append_nil]
  · rw [hlines, ruleLines_rules, ruleLines_rules, if_neg hdirections, if_pos rfl, List.nil_append]

theorem rules_injective {direction : Direction} {rules rules' : List Replacement}
    (h : (rules.map fun rule => ((rule.text direction).toList, rereadRule rule)) =
      rules'.map fun rule => ((rule.text direction).toList, rereadRule rule)) : rules = rules' := by
  refine (List.map_inj_right fun rule rule' heq => ?_).1 h
  exact rule_injective (congrArg Prod.fst heq) (congrArg Prod.snd heq)

/-- Clauses are told apart by how they are written. -/
theorem clause_injective {c c' : Clause} (h : c.IsWellFormed) (h' : c'.IsWellFormed)
    (htext : c.text = c'.text) : c = c' := by
  have hread := readOperand_text 0 c h false (max c.depth c'.depth) (Nat.le_max_left _ _) []
    stops_nil
  rw [htext] at hread
  exact (takes_unique hread (readOperand_text 0 c' h' false (max c.depth c'.depth)
    (Nat.le_max_right _ _) [] stops_nil)).1

/-- **The written form of a readable document says what its filter and its rules are.** -/
theorem text_injective {d d' : Document} (h : d.IsReadable) (h' : d'.IsReadable)
    {layout : Layout} (htext : d.text layout = d'.text layout) :
    (d.filter.map fun g => statementClause g.members) =
        (d'.filter.map fun g => statementClause g.members) ∧
      d.incoming = d'.incoming ∧ d.outgoing = d'.outgoing := by
  -- One limit that neither document passes, so that the lines of both are read with it.
  have hlines : readLines layout d = readLines layout d' := by
    refine lines_injective (max d.depth d'.depth) _ _
      (isStatement_readLines h layout (Nat.le_max_left _ _))
      (isStatement_readLines h' layout (Nat.le_max_right _ _))
      (readLines_tail layout d) (readLines_tail layout d') ?_
    rw [← toList_text_document, ← toList_text_document, htext]
  have hin := (ruleLines_readLines layout d).1
  have hout := (ruleLines_readLines layout d).2
  rw [hlines, (ruleLines_readLines layout d').1] at hin
  rw [hlines, (ruleLines_readLines layout d').2] at hout
  refine ⟨?_, rules_injective hin.symm, rules_injective hout.symm⟩
  have hfilter := filterMap_clause?_readLines layout d
  rw [hlines, filterMap_clause?_readLines layout d'] at hfilter
  rw [← Option.head?_toList (o := d.filter.map _), ← hfilter, Option.head?_toList]

end PostFilter.Document
