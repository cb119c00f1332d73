import PostFilter.Proofs.Reading.Chains

/-!
# Documents — parsing undoes printing

A document is written with one statement to a line, though a chain may take several lines. Each
statement is read back from the front of what is left (`IsStatement`), so the lines are read back
one after another (`readStatements_lines`). A replacement rule may go wrong in one way only: its
template is normalized when it is read, and a well-formed one is already normalized.

* `Document.parse_text` — reading the written form of a well-formed document gives the document,
  with its filter as one statement.
-/

namespace PostFilter.Document

open Text

/-! ### Replacement rules -/

/-- The written form of a replacement rule behind its word, up to its template. -/
def ruleHead (rule : Replacement) (rest : List Char) : List Char :=
  scopeText rule.scope ++ '(' :: (rule.pattern.text.toList ++ ',' :: rest)

theorem toList_text_rule (direction : Direction) (rule : Replacement) (rest : List Char) :
    (rule.text direction).toList ++ rest = '#' :: (direction.word.toList ++
      ruleHead rule (escape rule.template.toList ++ ')' :: rest)) := by
  obtain ⟨scope, pattern, template⟩ := rule
  cases scope <;> simp [Replacement.text, ruleHead, scopeText, escapeText]

theorem readWord_direction (direction : Direction) (rule : Replacement) (rest : List Char) :
    (readWord (direction.word.toList ++ ruleHead rule rest)).value = direction.word.toList ∧
      (readWord (direction.word.toList ++ ruleHead rule rest)).rest = ruleHead rule rest :=
  readWord_append (List.all_eq_true.1 (by cases direction <;> decide))
    (stops_scopeText (by decide) rule.scope (stops_cons (by decide)))

theorem direction?_rule (direction : Direction) (rule : Replacement) (rest : List Char) :
    direction? ('#' :: (direction.word.toList ++ ruleHead rule rest)) = some direction := by
  rw [direction?]
  simp only [(readWord_direction direction rule rest).1, String.ofList_toList]
  cases direction <;> rfl

/-- A rule is read as it is written, up to the normalization of its template. -/
theorem readReplacement_rule {rule : Replacement} (hscope : ∀ s ∈ rule.scope, s.IsWellFormed)
    (hpattern : rule.pattern.IsLiteral) (direction : Direction) (whole rest : List Char) :
    Reads (readReplacement direction whole
        (ruleHead rule (escape rule.template.toList ++ ')' :: rest)))
      (Replacement.make rule.scope rule.pattern rule.template) rest := by
  have hhead : Stops (· == '[') ('(' :: (rule.pattern.text.toList ++
      ',' :: (escape rule.template.toList ++ ')' :: rest))) := stops_cons rfl
  obtain ⟨scope, hs, hsvalue, hsrest⟩ := readScope?_text hscope hhead
  obtain ⟨opening, hopening, horest⟩ := sign?_of_rest_cons hsrest
  -- Blanks may stand before the pattern and behind it; as it is written, there are none.
  have hstart : (opening.andThen (skippedInline opening.rest)).rest = rule.pattern.text.toList ++
      ',' :: (escape rule.template.toList ++ ')' :: rest) := by
    change skipInline opening.rest = _
    rw [horest, toList_text_pattern]
    exact skipInline_eq_self (stops_cons rfl)
  have hcommaStops : Stops Char.isAlpha
      (',' :: (escape rule.template.toList ++ ')' :: rest)) := stops_cons rfl
  have hread := readPattern_text hpattern hcommaStops
  rw [← hstart] at hread
  obtain ⟨p, hp, hpvalue, hprest⟩ := hread
  have hbehind : (((opening.andThen (skippedInline opening.rest)).andThen p).andThen
      (skippedInline p.rest)).rest = ',' :: (escape rule.template.toList ++ ')' :: rest) := by
    change skipInline p.rest = _
    rw [hprest]
    exact skipInline_eq_self (stops_cons rfl)
  obtain ⟨comma, hcomma, hcrest⟩ := sign?_of_rest_cons hbehind
  have htext : Reads (readText scope.rest comma.rest) rule.template.toList rest := by
    rw [hcrest]
    exact readText_escape rule.template.toList scope.rest rest
  obtain ⟨t, ht, htvalue, htrest⟩ := htext
  rw [ruleHead, readReplacement, hs]
  simp only [hopening, hp, hcomma, ht]
  refine ⟨_, rfl, ?_, htrest⟩
  simp [Reading.andThen, Reading.map, hsvalue, hpvalue, htvalue]

theorem readReplacementEnd_end {rest : List Char}
    (h : rest = [] ∨ ∃ more, rest = '\n' :: '#' :: more) :
    Reads (readReplacementEnd rest) () rest := by
  rcases h with rfl | ⟨more, rfl⟩
  · exact ⟨_, rfl, rfl, rfl⟩
  · have hline : (skippedInline ('\n' :: '#' :: more)).rest = '\n' :: '#' :: more :=
      skipInline_eq_self (stops_cons rfl)
    -- The reader looks past the line feed for a joiner, finds another statement and takes nothing.
    have hnext : skipAny ('\n' :: '#' :: more) = '#' :: more :=
      dropWhile_append_of_stops (s := ['\n']) (stops_cons rfl) (List.forall_mem_singleton.2 rfl)
    rw [readReplacementEnd]
    simp only [hline, List.head?_cons, hnext]
    exact ⟨_, rfl, rfl, hline⟩

/-! ### Statements -/

/-- Whether a statement ends here: at the end of the text, or of a line before another `#`. -/
def EndsStatement (rest : List Char) : Prop := rest = [] ∨ ∃ more, rest = '\n' :: '#' :: more

/-- Whether a text is read as a statement, whatever lines follow. -/
structure IsStatement (limit : Nat) (text : List Char) (statement : Statement) : Prop where
  nonempty : text ≠ []
  blank : Stops isAnyBlank text
  reads : ∀ rest, EndsStatement rest →
    Takes (readStatement limit (text ++ rest)) statement rest

/-- The rule that is read where a rule was written. -/
def rereadRule (rule : Replacement) : Replacement :=
  Replacement.make rule.scope rule.pattern rule.template

theorem isStatement_rule {rule : Replacement} (hscope : ∀ s ∈ rule.scope, s.IsWellFormed)
    (hpattern : rule.pattern.IsLiteral) (direction : Direction) (limit : Nat) :
    IsStatement limit (rule.text direction).toList
      (.replacement direction (rereadRule rule)) := by
  have htext := toList_text_rule direction rule []
  rw [List.append_nil] at htext
  refine ⟨by rw [htext]; exact List.cons_ne_nil _ _, by rw [htext]; exact stops_cons rfl, ?_⟩
  intro rest hrest
  rw [toList_text_rule, readStatement]
  simp only [direction?_rule]
  have hrule : Reads (readReplacement direction ('#' :: (direction.word.toList ++
      ruleHead rule (escape rule.template.toList ++ ')' :: rest)))
      (readWord (direction.word.toList ++
        ruleHead rule (escape rule.template.toList ++ ')' :: rest))).rest)
      (rereadRule rule) rest := by
    rw [(readWord_direction direction rule _).2]
    exact readReplacement_rule hscope hpattern direction _ rest
  obtain ⟨r, hr, hvalue, hleft⟩ := hrule
  have hend : Reads (readReplacementEnd r.rest) () rest := by
    rw [hleft]
    exact readReplacementEnd_end hrest
  obtain ⟨e, he, -, heleft⟩ := hend
  simp only [hr, he]
  refine ⟨_, rfl, ?_, heleft⟩
  simp [Reading.andThen, Reading.map, Reading.takenPast, hvalue]

/-- No clause is written like a replacement rule. -/
theorem direction?_clause (c : Clause) {rest : List Char} (hrest : Stops Char.isAlphanum rest) :
    direction? (c.text.toList ++ rest) = none := by
  rw [toList_text_clause, List.append_assoc]
  by_cases hn : c.isNegated = true
  · rw [if_pos hn]; rfl
  · rw [if_neg hn, List.nil_append]
    cases c with
    | spell s => exact direction?_spell hrest
    | group g => rfl

theorem direction?_joinedText (blanks : List Char) {members : List Member} (h : members ≠ [])
    {rest : List Char} (hrest : Stops Char.isAlphanum rest) :
    direction? (joinedText blanks members ++ rest) = none := by
  match members, h with
  | [m], _ => exact direction?_clause m.clause hrest
  | m :: n :: more, _ =>
      rw [joinedText, List.append_assoc]
      exact direction?_clause m.clause (stops_cons (by decide))

theorem readStatement_chain {limit : Nat} {s rest : List Char} {members : List Member}
    (hdirection : direction? s = none) (hne : s ≠ []) (hclose : Stops (· == ')') rest)
    (h : Takes (readStatementChain limit s) members rest) :
    Takes (readStatement limit s) (.clause (statementClause members)) rest := by
  obtain ⟨t, ht, hvalue, hleft⟩ := h
  have hhead : (t.rest.head? == some ')') = false := by
    rw [hleft]
    refine beq_eq_false_iff_ne.2 fun heq => ?_
    have hstop := hclose ')' heq
    cases hstop
  match s, hne with
  | c :: s, _ =>
      rw [readStatement]
      simp only [hdirection, ht, hhead]
      exact ⟨_, rfl, by simp [Taking.map, hvalue], hleft⟩

/-- A chain is a statement. -/
theorem isStatement_chain {members : List Member} (h : Group.MembersWellFormed members)
    {blanks : List Char} (hblanks : ∀ c ∈ blanks, isAnyBlank c = true) {limit : Nat}
    (hdepth : Group.membersDepth members ≤ limit) :
    IsStatement limit (joinedText blanks members) (.clause (statementClause members)) := by
  have hne : members ≠ [] := by rintro rfl; exact h
  obtain ⟨d, tail, htext, hd⟩ := joinedText_eq_cons blanks hne
  refine ⟨by rw [htext]; exact List.cons_ne_nil _ _,
    by rw [htext]; exact stops_of_beginsOperand (by decide) hd tail, ?_⟩
  intro rest hrest
  -- What ends a statement goes on with no spell and closes no parenthesis.
  have hstop : Stops continuesSpell rest := by
    rcases hrest with rfl | ⟨more, rfl⟩
    · exact stops_nil
    · exact stops_cons rfl
  have hclose : Stops (· == ')') rest := by
    rcases hrest with rfl | ⟨more, rfl⟩
    · exact stops_nil
    · exact stops_cons rfl
  refine readStatement_chain (direction?_joinedText blanks hne (stops_alphanum hstop))
    (by rw [htext]; exact List.cons_ne_nil _ _) hclose ?_
  exact readChain_joinedText hblanks (readJoiner?_end hrest) hstop h
    (readOperand_members limit members h false limit hdepth)

/-! ### Documents -/

/-- The text behind a statement: the lines that follow, each behind a line feed. -/
def linesBehind : List (List Char) → List Char
  | [] => []
  | line :: lines => '\n' :: (line ++ linesBehind lines)

theorem intercalate_lines (line : List Char) : ∀ lines : List (List Char),
    (['\n'] : List Char).intercalate (line :: lines) = line ++ linesBehind lines
  | [] => by rw [List.intercalate_singleton, linesBehind, List.append_nil]
  | next :: lines => by
      rw [List.intercalate_cons_cons, intercalate_lines next lines, linesBehind,
        List.append_assoc, List.singleton_append]

/-- What follows a line ends its statement, if every line that follows begins with `#`. -/
theorem endsStatement_linesBehind {lines : List (List Char × Statement)}
    (hmark : ∀ l ∈ lines, ∃ more, l.1 = '#' :: more) :
    EndsStatement (linesBehind (lines.map Prod.fst)) := by
  cases lines with
  | nil => exact Or.inl rfl
  | cons l lines =>
      obtain ⟨more, hl⟩ := hmark l List.mem_cons_self
      exact Or.inr ⟨more ++ linesBehind (lines.map Prod.fst),
        by rw [List.map_cons, linesBehind, hl]; rfl⟩

/-- **Statements are read line by line.** All but the first begin with `#`. -/
theorem readStatements_lines (limit : Nat) : ∀ (lines : List (List Char × Statement))
    (s : List Char), (∀ l ∈ lines, IsStatement limit l.1 l.2) →
    (∀ l ∈ lines.tail, ∃ more, l.1 = '#' :: more) →
    skipAny s = (['\n'] : List Char).intercalate (lines.map Prod.fst) →
    readStatements limit s = .ok (lines.map Prod.snd)
  | [], s, _, _, hs => by
      have hempty : (skippedAny s).rest.isEmpty = true := by
        rw [List.isEmpty_iff]
        exact hs
      rw [readStatements]
      simp only [hempty]
      rfl
  | (text, statement) :: lines, s, h, hmark, hs => by
      have hfirst : IsStatement limit text statement := h _ List.mem_cons_self
      rw [List.map_cons, intercalate_lines] at hs
      -- The text of a statement is not empty, so there is something left to read.
      have hne : (skippedAny s).rest.isEmpty = false := by
        rw [List.isEmpty_eq_false_iff]
        intro hnil
        exact hfirst.nonempty (List.append_eq_nil_iff.1 (hs.symm.trans hnil)).1
      have hend : EndsStatement (linesBehind (lines.map Prod.fst)) :=
        endsStatement_linesBehind hmark
      have hread := hfirst.reads _ hend
      rw [← hs] at hread
      obtain ⟨t, ht, hvalue, hleft⟩ : Takes (readStatement limit (skippedAny s).rest) statement
        (linesBehind (lines.map Prod.fst)) := hread
      -- Behind the statement, the line feed is skipped, and the next line begins with no blank.
      have hskip : skipAny t.rest =
          (['\n'] : List Char).intercalate (lines.map Prod.fst) := by
        rw [hleft]
        cases lines with
        | nil => rfl
        | cons l lines =>
            obtain ⟨more, hl⟩ := hmark l List.mem_cons_self
            rw [List.map_cons, linesBehind, intercalate_lines, hl]
            exact dropWhile_append_of_stops (s := ['\n']) (stops_cons rfl)
              (List.forall_mem_singleton.2 rfl)
      have ih := readStatements_lines limit lines t.rest
        (fun l hl => h l (List.mem_cons_of_mem _ hl))
        (fun l hl => hmark l (List.mem_of_mem_tail hl)) hskip
      rw [readStatements]
      simp only [hne, ht, ih, hvalue]
      rfl

theorem intercalate_broken (indent : List Char) : ∀ {members : List Member},
    (members.all fun m => m.joiner == .or) = true →
    (" |\n" ++ String.ofList indent).toList.intercalate
        (members.map fun m => m.clause.text.toList) = joinedText ('\n' :: indent) members
  | [], _ => rfl
  | [m], _ => by rw [List.map_singleton, List.intercalate_singleton, joinedText]
  | m :: n :: rest, h => by
      rw [List.all_cons, Bool.and_eq_true, beq_iff_eq] at h
      have ih := intercalate_broken indent h.2
      rw [List.map_cons] at ih
      rw [List.map_cons, List.map_cons, List.intercalate_cons_cons, ih, joinedText, h.1]
      simp [Joiner.sign]

/-- In every layout, the outermost group is written as its members with blanks around their
joiners. -/
theorem toList_rootText {g : Group} (hg : g.negated = false) (layout : Layout) :
    ∃ blanks, (∀ c ∈ blanks, isAnyBlank c = true) ∧
      (g.rootText layout).toList = joinedText blanks g.members := by
  rw [Group.rootText, hg, if_neg Bool.false_ne_true]
  dsimp only
  split
  · rename_i hbroken
    rw [Bool.and_eq_true, Bool.and_eq_true] at hbroken
    -- Only chains of `or` are broken into lines, so that is the joiner at every break.
    refine ⟨'\n' :: List.replicate layout.indent ' ', ?_, ?_⟩
    · intro c hc
      rcases List.mem_cons.1 hc with rfl | hc
      · rfl
      · rw [List.eq_of_mem_replicate hc]; rfl
    · rw [String.toList_intercalate, Group.clauses, List.map_map, List.map_map]
      exact intercalate_broken _ hbroken.1.1
  · exact ⟨[' '], List.forall_mem_singleton.2 rfl, toList_chainText g.members⟩

/-- The lines of a document and the statements that they are read as. -/
def readLines (layout : Layout) (d : Document) : List (List Char × Statement) :=
  (d.filter.map fun g =>
      ((g.rootText layout).toList, .clause (statementClause g.members))).toList ++
    (d.incoming.map (fun rule =>
        ((rule.text .incoming).toList, .replacement .incoming (rereadRule rule))) ++
      d.outgoing.map fun rule =>
        ((rule.text .outgoing).toList, .replacement .outgoing (rereadRule rule)))

theorem toList_text_document (layout : Layout) (d : Document) :
    (d.text layout).toList =
      (['\n'] : List Char).intercalate ((readLines layout d).map Prod.fst) := by
  obtain ⟨filter, incoming, outgoing⟩ := d
  rw [Document.text, String.toList_intercalate, Document.lines, readLines]
  cases filter <;> simp [Function.comp_def]

/-- What a document must be like to be read back, but for the normalization of its templates. -/
structure IsReadable (d : Document) : Prop where
  filter : ∀ g ∈ d.filter, g.negated = false ∧ g.IsWellFormed
  scope : ∀ rule ∈ d.incoming ++ d.outgoing, ∀ s ∈ rule.scope, s.IsWellFormed
  pattern : ∀ rule ∈ d.incoming ++ d.outgoing, rule.pattern.IsLiteral

theorem IsWellFormed.isReadable {d : Document} (h : d.IsWellFormed) : d.IsReadable := by
  have hrule : ∀ rule ∈ d.incoming ++ d.outgoing, rule.IsWellFormed := fun rule hrule =>
    (List.mem_append.1 hrule).elim (h.incoming rule) (h.outgoing rule)
  exact ⟨h.filter, fun rule hr => (hrule rule hr).scope, fun rule hr => (hrule rule hr).pattern⟩

/-- Every line of a readable document is read as its statement. -/
theorem isStatement_readLines {d : Document} (h : d.IsReadable) (layout : Layout) {limit : Nat}
    (hdepth : d.depth ≤ limit) : ∀ l ∈ readLines layout d, IsStatement limit l.1 l.2 := by
  have hfilter : ∀ g ∈ d.filter,
      IsStatement limit (g.rootText layout).toList (.clause (statementClause g.members)) := by
    intro g hg
    obtain ⟨blanks, hblanks, htext⟩ := toList_rootText (h.filter g hg).1 layout
    have hmembers : Group.MembersWellFormed g.members := by
      obtain ⟨negated, members⟩ := g
      exact (h.filter _ hg).2
    have hd : Group.membersDepth g.members ≤ limit := by
      rw [depth, Option.mem_def.1 hg] at hdepth
      exact hdepth
    rw [htext]
    exact isStatement_chain hmembers hblanks hd
  intro l hl
  rcases List.mem_append.1 hl with hl | hl
  · obtain ⟨g, hg, rfl⟩ := Option.map_eq_some_iff.1 (Option.mem_toList.1 hl)
    exact hfilter g hg
  · rcases List.mem_append.1 hl with hl | hl
    · obtain ⟨rule, hr, rfl⟩ := List.mem_map.1 hl
      have hmem := List.mem_append_left d.outgoing hr
      exact isStatement_rule (h.scope rule hmem) (h.pattern rule hmem) .incoming limit
    · obtain ⟨rule, hr, rfl⟩ := List.mem_map.1 hl
      have hmem := List.mem_append_right d.incoming hr
      exact isStatement_rule (h.scope rule hmem) (h.pattern rule hmem) .outgoing limit

/-- Every line but the first begins with the sign of a replacement rule. -/
theorem readLines_tail (layout : Layout) (d : Document) :
    ∀ l ∈ (readLines layout d).tail, ∃ more, l.1 = '#' :: more := by
  have hrule (direction : Direction) (rule : Replacement) :
      ∃ more, (rule.text direction).toList = '#' :: more := by
    have htext := toList_text_rule direction rule []
    rw [List.append_nil] at htext
    exact ⟨_, htext⟩
  intro l hl
  have hl : l ∈ d.incoming.map (fun rule =>
        ((rule.text .incoming).toList, Statement.replacement .incoming (rereadRule rule))) ++
      d.outgoing.map fun rule =>
        ((rule.text .outgoing).toList, Statement.replacement .outgoing (rereadRule rule)) := by
    obtain ⟨filter, incoming, outgoing⟩ := d
    cases filter with
    | none => exact List.mem_of_mem_tail hl
    | some g => exact hl
  rcases List.mem_append.1 hl with hl | hl
  · obtain ⟨rule, -, rfl⟩ := List.mem_map.1 hl
    exact hrule .incoming rule
  · obtain ⟨rule, -, rfl⟩ := List.mem_map.1 hl
    exact hrule .outgoing rule

theorem readStatements_document {d : Document} (h : d.IsReadable) (layout : Layout) {limit : Nat}
    (hdepth : d.depth ≤ limit) :
    readStatements limit (d.text layout).toList = .ok ((readLines layout d).map Prod.snd) := by
  have hstatement := isStatement_readLines h layout hdepth
  refine readStatements_lines limit _ _ hstatement (readLines_tail layout d) ?_
  rw [toList_text_document]
  cases hlines : readLines layout d with
  | nil => rfl
  | cons l lines =>
      have hl : IsStatement limit l.1 l.2 := hstatement l (by rw [hlines]; exact List.mem_cons_self)
      rw [List.map_cons, intercalate_lines]
      obtain ⟨c, text, htext⟩ := List.exists_cons_of_ne_nil hl.nonempty
      have hc : isAnyBlank c = false := hl.blank c (by rw [htext]; rfl)
      rw [htext]
      exact dropWhile_eq_self (stops_cons hc)

/-- The filter of the document whose only statement is a chain. -/
theorem filterOf_statementClause {g : Group} (hg : g.negated = false) (h : g.IsWellFormed) :
    filterOf [statementClause g.members] = some g.reread := by
  obtain ⟨negated, members⟩ := g
  cases hg
  match members, h with
  | [⟨c, j⟩], h =>
      obtain ⟨-, rfl⟩ := h
      rfl
  | m :: n :: rest, _ =>
      have htwo : (m :: n :: rest).length ≠ 1 := by simp
      rw [Group.reread, if_neg htwo]
      rfl

/-- The statements of replacement rules that were written. -/
def ruleStatements (direction : Direction) (rules : List Replacement) : List Statement :=
  rules.map fun rule => .replacement direction (rereadRule rule)

theorem filterMap_clause?_rules (direction : Direction) (rules : List Replacement) :
    (ruleStatements direction rules).filterMap Statement.clause? = [] := by
  rw [ruleStatements, List.filterMap_map, List.filterMap_eq_nil_iff]
  exact fun _ _ => rfl

theorem filterMap_replacement?_rules (direction direction' : Direction)
    (rules : List Replacement) :
    (ruleStatements direction rules).filterMap (Statement.replacement? direction') =
      if direction = direction' then rules.map rereadRule else [] := by
  rw [ruleStatements, List.filterMap_map]
  split
  · rename_i hd
    rw [← List.filterMap_eq_map]
    congr 1
    funext rule
    exact if_pos hd
  · rename_i hd
    rw [List.filterMap_eq_nil_iff]
    exact fun rule _ => if_neg hd

theorem map_snd_readLines (layout : Layout) (d : Document) :
    (readLines layout d).map Prod.snd =
      (d.filter.map fun g => .clause (statementClause g.members)).toList ++
        (ruleStatements .incoming d.incoming ++ ruleStatements .outgoing d.outgoing) := by
  obtain ⟨filter, incoming, outgoing⟩ := d
  cases filter <;> simp [readLines, ruleStatements, Function.comp_def]

/-- The only clause among the statements that were written is the filter. -/
theorem filterMap_clause?_readLines (layout : Layout) (d : Document) :
    ((readLines layout d).map Prod.snd).filterMap Statement.clause? =
      (d.filter.map fun g => statementClause g.members).toList := by
  rw [map_snd_readLines, List.filterMap_append, List.filterMap_append, filterMap_clause?_rules,
    filterMap_clause?_rules, List.append_nil, List.append_nil]
  cases d.filter <;> rfl

/-- The filter holds none of the rules that were written. -/
theorem filterMap_replacement?_readLines (layout : Layout) (d : Document) :
    ((readLines layout d).map Prod.snd).filterMap (Statement.replacement? .incoming) =
        d.incoming.map rereadRule ∧
      ((readLines layout d).map Prod.snd).filterMap (Statement.replacement? .outgoing) =
        d.outgoing.map rereadRule := by
  have hfilter (direction : Direction) :
      (d.filter.map fun g => Statement.clause (statementClause g.members)).toList.filterMap
        (Statement.replacement? direction) = [] := by
    cases d.filter <;> rfl
  simp only [map_snd_readLines, List.filterMap_append, filterMap_replacement?_rules, hfilter,
    List.append_nil, List.nil_append, reduceCtorEq, if_true, if_false, and_self]

/-- Reading gives a readable document back, with its filter as one statement and its templates
normalized. -/
theorem parse_text_of_isReadable {d : Document} (h : d.IsReadable) (layout : Layout)
    {limits : Limits} (hsize : byteLength (d.text layout).toList ≤ limits.size)
    (hdepth : d.depth ≤ limits.depth) :
    parse (d.text layout) limits =
      .ok ⟨d.filter.map Group.reread, d.incoming.map rereadRule, d.outgoing.map rereadRule⟩ := by
  rw [parse, readDocument, if_neg (Nat.not_lt.2 hsize), readStatements_document h layout hdepth]
  refine congrArg Except.ok ?_
  have hfilter : filterOf (d.filter.map fun g => statementClause g.members).toList =
      d.filter.map Group.reread := by
    cases hf : d.filter with
    | none => rfl
    | some g => exact filterOf_statementClause (h.filter g hf).1 (h.filter g hf).2
  rw [ofStatements, filterMap_clause?_readLines, hfilter,
    (filterMap_replacement?_readLines layout d).1, (filterMap_replacement?_readLines layout d).2]

/-- Templates that are normalized already are read as they are. -/
theorem map_rereadRule {rules : List Replacement} (h : ∀ rule ∈ rules, rule.IsWellFormed) :
    rules.map rereadRule = rules := by
  have hrule : ∀ rule ∈ rules, rereadRule rule = rule :=
    fun ⟨scope, pattern, _⟩ hr => congrArg (Replacement.mk scope pattern) (h _ hr).template
  rw [List.map_congr_left hrule, List.map_id']

/-- A text that a well-formed document has is read as that document. -/
theorem parse_of_text {d : Document} {s : String} {limits : Limits} (h : d.IsWellFormed)
    (hs : d.text = s) (hsize : byteLength s.toList ≤ limits.size)
    (hdepth : d.depth ≤ limits.depth) : parse s limits = .ok d.reread := by
  subst hs
  rw [parse_text_of_isReadable h.isReadable {} hsize hdepth, reread, map_rereadRule h.incoming,
    map_rereadRule h.outgoing]

/-- **Parsing undoes printing.** In every layout, and within limits that the text keeps, a
well-formed document is read back as it is, but for its filter if that is not one statement. -/
theorem parse_text {d : Document} (h : d.IsWellFormed) (layout : Layout) {limits : Limits}
    (hsize : byteLength (d.text layout).toList ≤ limits.size) (hdepth : d.depth ≤ limits.depth) :
    parse (d.text layout) limits = .ok d.reread := by
  rw [parse_text_of_isReadable h.isReadable layout hsize hdepth, reread, map_rereadRule h.incoming,
    map_rereadRule h.outgoing]

/-- The document `#op & !(#words[b](a) | #wipe(capslock))`, which is not one statement. -/
theorem parse_text_of_two :
    let words : Spell :=
      { kind := .words, argument := some (.text "a"), scope := some ⟨"b", .anywhere⟩ }
    let wipe : Spell := { kind := .wipe, argument := some (.checks ⟨16⟩) }
    let d : Document := { filter := some ⟨false, [⟨.spell { kind := .op }, .and⟩,
      ⟨.group ⟨true, [⟨.spell words, .or⟩, ⟨.spell wipe, .or⟩]⟩, .or⟩]⟩ }
    d.IsWellFormed ∧ byteLength (d.text { width := 10 }).toList ≤ 1048576 ∧ d.depth ≤ 64 ∧
      parse (d.text { width := 10 }) = .ok d.reread := by
  intro words wipe d
  have hop : Spell.IsWellFormed { kind := .op } :=
    ⟨(by decide : Kind.op.requirement ≠ .required), by rintro _ ⟨⟩⟩
  have hwords : words.IsWellFormed := by
    refine ⟨⟨by decide, rfl, by decide, by decide⟩, ?_⟩
    rintro _ ⟨⟩
    exact ⟨by decide, List.all_eq_true.1 (by decide +kernel)⟩
  have hwipe : wipe.IsWellFormed := ⟨⟨by decide, rfl, by decide, by decide⟩, by rintro _ ⟨⟩⟩
  have hd : d.IsWellFormed := by
    refine ⟨?_, by rintro _ ⟨⟩, by rintro _ ⟨⟩⟩
    rintro _ ⟨⟩
    exact ⟨rfl, hop, ⟨hwords, hwipe, rfl⟩, rfl⟩
  have hsize : byteLength (d.text { width := 10 }).toList ≤ 1048576 := by decide +kernel
  have hdepth : d.depth ≤ 64 := by decide
  exact ⟨hd, hsize, hdepth, parse_text hd _ hsize hdepth⟩

end PostFilter.Document
