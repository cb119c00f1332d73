import PostFilter.Proofs.Accepted.Canonical

/-!
# Documents — what is written too deep is refused

The written form of a document is refused exactly if it is too large or its parentheses are nested
too deep, and the fault says which. In a chain the operands before the first one that is too deep
are read, and with it the reading ends (`readChain_fails`); so a fault is handed on from the
innermost parenthesis to the statement around it.

* `Document.parse_text_of_lt_size`, `Document.parse_text_of_lt_depth` — the two refusals.
-/

namespace PostFilter.Document

open Text

/-- Whether a reader is stopped by a fault of the given cause. -/
def Fails {α : Type} (result : Except Failure α) (cause : Cause) : Prop :=
  ∃ rest, result = .error ⟨cause, rest⟩

theorem Fails.map {α β : Type} {x : Except Failure α} {cause : Cause} (h : Fails x cause)
    (f : α → β) : Fails (x.map f) cause := by
  obtain ⟨rest, rfl⟩ := h
  exact ⟨rest, rfl⟩

section Chains

variable {inside : Bool} {operand : (s : List Char) → Except Failure (Taking Clause s)}
  {cause : Cause} {blanks : List Char}

theorem readChain_of_operand {s : List Char} (h : Fails (operand s) cause) :
    Fails (readChain inside operand s) cause := by
  obtain ⟨rest, he⟩ := h
  rw [readChain]
  simp only [he]
  exact ⟨rest, rfl⟩

/-- A chain fails behind an operand that is read. -/
theorem readChain_behind {c : Clause} {j : Joiner} {more : List Char}
    (hc : ∀ rest, Stops continuesSpell rest → Takes (operand (c.text.toList ++ rest)) c rest)
    (hblanks : ∀ c ∈ blanks, isAnyBlank c = true) (hmore : Stops isAnyBlank more)
    (h : Fails (readChain inside operand more) cause) :
    Fails (readChain inside operand (c.text.toList ++ (' ' :: j.sign :: (blanks ++ more))))
      cause := by
  obtain ⟨t, ht, -, hleft⟩ := hc (' ' :: j.sign :: (blanks ++ more)) (stops_cons rfl)
  have hjoiner := readJoiner?_sign inside j hblanks hmore
  rw [← hleft] at hjoiner
  obtain ⟨n, hn, hnvalue, hnleft⟩ := hjoiner
  rw [← hnleft] at h
  obtain ⟨failed, hfailed⟩ := h
  rw [readChain]
  simp only [ht, hn, hnvalue, hfailed]
  exact ⟨failed, rfl⟩

/-- A chain fails with the first of its operands that does. -/
theorem readChain_fails (bad : Clause → Prop) (hblanks : ∀ c ∈ blanks, isAnyBlank c = true)
    {tail : List Char} (htail : Stops continuesSpell tail) :
    ∀ {members : List Member}, Group.MembersWellFormed members →
    (∀ m ∈ members, ∀ rest, Stops continuesSpell rest → ¬ bad m.clause →
      Takes (operand (m.clause.text.toList ++ rest)) m.clause rest) →
    (∀ m ∈ members, ∀ rest, bad m.clause → Fails (operand (m.clause.text.toList ++ rest)) cause) →
    (∃ m ∈ members, bad m.clause) →
    Fails (readChain inside operand (joinedText blanks members ++ tail)) cause
  | [⟨c, j⟩], _, _, hfails, hbad => by
      obtain ⟨m, hm, hbad⟩ := hbad
      cases List.mem_singleton.1 hm
      rw [joinedText]
      exact readChain_of_operand (hfails _ hm tail hbad)
  | ⟨c, j⟩ :: m :: rest, h, htakes, hfails, hbad => by
      rw [joinedText_cons]
      by_cases hc : bad c
      · exact readChain_of_operand (hfails ⟨c, j⟩ List.mem_cons_self _ hc)
      · have hrest : ∃ m' ∈ m :: rest, bad m'.clause := by
          obtain ⟨m', hm', hbad'⟩ := hbad
          rcases List.mem_cons.1 hm' with rfl | hm'
          · exact absurd hbad' hc
          · exact ⟨m', hm', hbad'⟩
        exact readChain_behind (fun rest hrest => htakes ⟨c, j⟩ List.mem_cons_self rest hrest hc)
          hblanks (stops_joinedText (by decide) blanks (List.cons_ne_nil _ _) tail)
          (readChain_fails bad hblanks htail h.2
            (fun m' hm' => htakes m' (List.mem_cons_of_mem _ hm'))
            (fun m' hm' => hfails m' (List.mem_cons_of_mem _ hm')) hrest)

end Chains

section Operands

variable {inside : Bool} {group : (whole s : List Char) → Except Failure (Reading Group s)}
  {cause : Cause} {text : List Char}

theorem readPlainOperand_fails (h : ∀ whole, Fails (group whole text) cause) :
    Fails (readPlainOperand inside group ('(' :: text)) cause := by
  rw [readPlainOperand]
  exact (h ('(' :: text)).map _

theorem readOperand_fails (negated : Bool) (hblank : Stops isAnyBlank text)
    (hmark : Stops (· == '!') text) (h : Fails (readPlainOperand inside group text) cause) :
    Fails (readOperand inside group ((if negated then ['!'] else []) ++ text)) cause := by
  obtain ⟨body, hbody, he⟩ := readOperand_eq inside group negated hblank hmark
  rw [← hbody] at h
  rw [he]
  exact h.map _

theorem readGroup_fails {operand : (s : List Char) → Except Failure (Taking Clause s)}
    {members : List Member} (hne : members ≠ []) {rest : List Char}
    (h : Fails (readChain true operand (joinedText [' '] members ++ ')' :: rest)) cause)
    (whole : List Char) :
    Fails (readGroup operand whole (joinedText [' '] members ++ ')' :: rest)) cause := by
  obtain ⟨hstart, hopen⟩ := skippedAny_joinedText hne rest
  rw [← hstart] at h
  obtain ⟨failed, hfailed⟩ := h
  rw [readGroup]
  simp only [hopen, hfailed]
  exact ⟨failed, rfl⟩

end Operands

/-- What is nested deeper than some bound has a member that is. -/
theorem exists_lt_depth {levels : Nat} : ∀ {members : List Member},
    levels < Group.membersDepth members → ∃ m ∈ members, levels < m.clause.depth
  | ⟨c, j⟩ :: rest, h => by
      rw [Group.membersDepth] at h
      rcases Nat.lt_or_ge levels c.depth with hc | hc
      · exact ⟨_, List.mem_cons_self, hc⟩
      · have hrest : levels < Group.membersDepth rest := by omega
        obtain ⟨m, hm, hdepth⟩ := exists_lt_depth hrest
        exact ⟨m, List.mem_cons_of_mem _ hm, hdepth⟩

/-- A chain is refused if its operands are where they are nested too deep. -/
theorem readChain_of_lt_depth (limit : Nat) {inside : Bool} {levels : Nat} {members : List Member}
    (h : Group.MembersWellFormed members) (hdepth : levels < Group.membersDepth members)
    (hfails : ∀ m ∈ members, levels < m.clause.depth → ∀ rest,
      Fails (readOperand inside (readGroupWithin limit levels) (m.clause.text.toList ++ rest))
        (.nestedTooDeep limit))
    {blanks tail : List Char} (hblanks : ∀ c ∈ blanks, isAnyBlank c = true)
    (htail : Stops continuesSpell tail) :
    Fails (readChain inside (readOperand inside (readGroupWithin limit levels))
      (joinedText blanks members ++ tail)) (.nestedTooDeep limit) := by
  have htakes : ∀ m ∈ members, ∀ rest, Stops continuesSpell rest → ¬ levels < m.clause.depth →
      Takes (readOperand inside (readGroupWithin limit levels) (m.clause.text.toList ++ rest))
        m.clause rest := by
    intro m hm rest hrest hle
    exact readOperand_text limit m.clause (isWellFormed_of_mem h m hm) inside levels
      (Nat.not_lt.1 hle) rest hrest
  exact readChain_fails (fun c => levels < c.depth) hblanks htail h htakes
    (fun m hm rest hlt => hfails m hm hlt rest) (exists_lt_depth hdepth)

mutual

/-- **A clause that is nested too deep is refused.** -/
theorem readOperand_of_lt_depth (limit : Nat) : ∀ (c : Clause), c.IsWellFormed →
    ∀ (inside : Bool) (levels : Nat), levels < c.depth → ∀ rest,
    Fails (readOperand inside (readGroupWithin limit levels) (c.text.toList ++ rest))
      (.nestedTooDeep limit)
  | .spell _, _, _, levels, hdepth, _ => absurd hdepth (Nat.not_lt_zero levels)
  | .group ⟨negated, members⟩, h, inside, levels, hdepth, rest => by
      have htext : plainText (.group ⟨negated, members⟩) ++ rest =
          '(' :: (joinedText [' '] members ++ ')' :: rest) := by
        simp [plainText]
      rw [toList_text_clause, List.append_assoc, htext]
      refine readOperand_fails negated (stops_cons rfl) (stops_cons rfl)
        (readPlainOperand_fails fun whole => ?_)
      cases levels with
      | zero => exact ⟨whole, rfl⟩
      | succ levels =>
          have hne : members ≠ [] := by rintro rfl; exact h
          exact readGroup_fails hne (readChain_of_lt_depth limit h (Nat.lt_of_succ_lt_succ hdepth)
            (readMembers_of_lt_depth limit members h true levels)
            (List.forall_mem_singleton.2 rfl) (stops_cons rfl)) whole

theorem readMembers_of_lt_depth (limit : Nat) : ∀ (members : List Member),
    Group.MembersWellFormed members → ∀ (inside : Bool) (levels : Nat),
    ∀ m ∈ members, levels < m.clause.depth → ∀ rest,
    Fails (readOperand inside (readGroupWithin limit levels) (m.clause.text.toList ++ rest))
      (.nestedTooDeep limit)
  | [⟨c, j⟩], h, inside, levels, m, hm, hdepth, rest => by
      rw [List.mem_singleton.1 hm] at hdepth ⊢
      exact readOperand_of_lt_depth limit c h.1 inside levels hdepth rest
  | ⟨c, j⟩ :: n :: members, h, inside, levels, m, hm, hdepth, rest => by
      rcases List.mem_cons.1 hm with rfl | hm
      · exact readOperand_of_lt_depth limit c h.1 inside levels hdepth rest
      · exact readMembers_of_lt_depth limit (n :: members) h.2 inside levels m hm hdepth rest

end

/-! ### Documents -/

theorem readStatement_fails {limit : Nat} {s : List Char} {cause : Cause} (hne : s ≠ [])
    (hdirection : direction? s = none) (h : Fails (readStatementChain limit s) cause) :
    Fails (readStatement limit s) cause := by
  obtain ⟨rest, he⟩ := h
  match s, hne with
  | c :: s, _ =>
      rw [readStatement]
      simp only [hdirection, he]
      exact ⟨rest, rfl⟩

/-- Behind blanks, a statement that fails stops the reading. -/
theorem readStatements_fails {limit : Nat} {s text : List Char} {cause : Cause}
    (hskip : skipAny s = text) (hne : text ≠ []) (h : Fails (readStatement limit text) cause) :
    Fails (readStatements limit s) cause := by
  subst hskip
  have hempty : (skippedAny s).rest.isEmpty = false := List.isEmpty_eq_false_iff.2 hne
  obtain ⟨rest, he⟩ := h
  have he : readStatement limit (skippedAny s).rest = .error ⟨cause, rest⟩ := he
  rw [readStatements]
  simp only [hempty, he]
  exact ⟨rest, rfl⟩

/-- The filter of a document is its first statement, so with it the whole document is refused. -/
theorem readStatements_of_lt_depth {d : Document} (h : d.IsReadable) (layout : Layout)
    {limit : Nat} (hdepth : limit < d.depth) :
    Fails (readStatements limit (d.text layout).toList) (.nestedTooDeep limit) := by
  match hfilter : d.filter with
  | none =>
      rw [depth, hfilter] at hdepth
      exact absurd hdepth (Nat.not_lt_zero limit)
  | some ⟨negated, members⟩ =>
      rw [depth, hfilter] at hdepth
      obtain ⟨hnegated, hmembers⟩ := h.filter _ hfilter
      obtain ⟨blanks, hblanks, hroot⟩ := toList_rootText hnegated layout
      have hne : members ≠ [] := by rintro rfl; exact hmembers
      have hlines : readLines layout d = ((Group.rootText layout ⟨negated, members⟩).toList,
          .clause (statementClause members)) :: (readLines layout d).tail := by
        rw [readLines, hfilter]
        rfl
      have htext : (d.text layout).toList =
          joinedText blanks members ++ linesBehind ((readLines layout d).tail.map Prod.fst) := by
        rw [toList_text_document, hlines, List.map_cons, intercalate_lines, hroot]
        rfl
      have hend : EndsStatement (linesBehind ((readLines layout d).tail.map Prod.fst)) :=
        endsStatement_linesBehind (readLines_tail layout d)
      have htail : Stops continuesSpell (linesBehind ((readLines layout d).tail.map Prod.fst)) := by
        rcases hend with hend | ⟨more, hend⟩
        · rw [hend]; exact stops_nil
        · rw [hend]; exact stops_cons rfl
      obtain ⟨c, tail, hjoined, hc⟩ := joinedText_eq_cons blanks hne
      have hnonempty : joinedText blanks members ++
          linesBehind ((readLines layout d).tail.map Prod.fst) ≠ [] := by
        rw [hjoined]
        exact List.cons_ne_nil _ _
      rw [htext]
      refine readStatements_fails (dropWhile_eq_self (stops_joinedText (by decide) blanks hne _))
        hnonempty (readStatement_fails hnonempty
          (direction?_joinedText blanks hne (stops_alphanum htail)) ?_)
      exact readChain_of_lt_depth limit hmembers hdepth
        (readMembers_of_lt_depth limit members hmembers false limit) hblanks htail

/-- **A text that is larger than the limit is refused.** -/
theorem parse_of_lt_size {source : String} {limits : Limits}
    (h : limits.size < byteLength source.toList) : ∃ position, parse source limits =
      .error ⟨.sourceTooLarge (byteLength source.toList) limits.size, position⟩ := by
  rw [parse, readDocument, if_pos h]
  exact ⟨_, rfl⟩

/-- **A document that is nested deeper than the limit is refused.** -/
theorem parse_text_of_lt_depth {d : Document} (h : d.IsReadable) (layout : Layout)
    {limits : Limits} (hsize : byteLength (d.text layout).toList ≤ limits.size)
    (hdepth : limits.depth < d.depth) : ∃ position,
      parse (d.text layout) limits = .error ⟨.nestedTooDeep limits.depth, position⟩ := by
  obtain ⟨rest, he⟩ := readStatements_of_lt_depth h layout hdepth
  rw [parse, readDocument, if_neg (Nat.not_lt.2 hsize), he]
  exact ⟨_, rfl⟩

end PostFilter.Document
