import PostFilter.Proofs.Book.Consistency
import PostFilter.Proofs.Book.Refusing
import PostFilter.Proofs.Canonical.Nesting

/-!
# Rule books — hiding by a pattern

The clause of a rule is read back exactly if its literal is, and that depends on the source that the
rule was made of: it must not be empty, and a slash behind it must not belong to it
(`PatternRule.isLiteral_iff_of_ofSource`). Sources with a slash that does are patterns all the same:
a bracket in the name of a group opens no class there, and a backslash in a comment covers nothing.
So such a rule can be made, but not added to a book (`RuleBook.hidePattern_outcome`).
-/

namespace PostFilter

open Document Text
open Pattern.LiteralState

namespace Document

/-! ### Texts without slashes -/

theorem slash_notMem {p : Char → Bool} {s : List Char} (h : ∀ c ∈ s, p c = true)
    (hp : p '/' = false) : '/' ∉ s :=
  fun hmem => Bool.false_ne_true (hp.symm.trans (h _ hmem))

theorem slash_notMem_scopeText {scope : Option Scope} (h : ∀ s ∈ scope, s.IsWellFormed) :
    '/' ∉ scopeText scope := by
  cases scope with
  | none => exact List.not_mem_nil
  | some s =>
      have hbody : '/' ∉ scopeBody s := fun hmem =>
        beq_eq_false_iff_ne.1
          (scopeBody_beq (h s rfl) (d := '/') (by decide) (by decide) _ hmem) rfl
      rw [scopeText, Option.map_some, Option.getD_some, toList_text_scope]
      simp [hbody]

theorem slash_notMem_behind (p : Pattern) {tail : List Char} (htail : '/' ∉ tail) :
    '/' ∉ p.flags.letters ++ ')' :: tail := by
  simp [slash_notMem (isAlpha_of_mem_letters p.flags) (by decide), htail]

end Document

namespace PatternRule

variable {r : PatternRule}

/-! ### Searches -/

section Searches
variable (hscope : ∀ s ∈ r.scope, s.IsWellFormed) (h : IsUnreadable r.pattern)
include hscope h

/-- A search is refused if the literal of its pattern does not end. -/
theorem isRefused_search {kind : Kind} (hshape : kind.shape = .pattern) :
    (r.spell kind (some (.pattern r.pattern))).IsRefused :=
  isRefused_spell fun inside _ _ _ htail hstops =>
    readOperand_noArgument hshape hscope hstops (h.noArgument (slash_notMem_behind r.pattern htail))
      inside _

/-- Two searches are refused with the first one, whose literal the second one may end. -/
theorem isRefused_pair :
    (Clause.group ⟨false, [⟨r.spell .subj (some (.pattern r.pattern)), .or⟩,
      ⟨r.spell .exp (some (.pattern r.pattern)), .or⟩]⟩).IsRefused := by
  refine isRefused_group (List.cons_ne_nil _ _)
    fun blanks hblanks inside limit levels tail htail _ => ?_
  have hbetween : '/' ∉ r.pattern.flags.letters ++ ')' :: ' ' :: '|' ::
      (blanks ++ '#' :: (Kind.exp.word.toList ++ scopeText r.scope)) :=
    slash_notMem_behind r.pattern (by
      simp [slash_notMem hblanks (by decide), slash_notMem_scopeText hscope,
        slash_notMem (isAlphanum_of_mem_word .exp) (by decide)])
  have hexp : joinedText blanks [⟨r.spell .exp (some (.pattern r.pattern)), .or⟩] ++ tail =
      '#' :: (Kind.exp.word.toList ++ (scopeText r.scope ++ '(' :: '/' ::
        (r.pattern.source.toList ++ '/' :: (r.pattern.flags.letters ++ ')' :: tail)))) := by
    rw [joinedText, ← spellBody_pattern]
    exact congrArg (· ++ tail) (toList_text_clause _)
  have hbody : NoArgument (r.pattern.source.toList ++ '/' :: (r.pattern.flags.letters ++
      ')' :: ' ' :: '|' :: (blanks ++ (joinedText blanks
        [⟨r.spell .exp (some (.pattern r.pattern)), .or⟩] ++ tail)))) := by
    rw [hexp]
    simpa using h.noArgument_twice hbetween (slash_notMem_behind r.pattern htail)
  have hsubj : Kind.subj.shape = .pattern := rfl
  obtain ⟨cause, hfails⟩ := readOperand_noArgument hsubj hscope (stops_cons rfl) hbody inside
    (readGroupWithin limit levels)
  rw [joinedText_cons]
  exact ⟨cause, readChain_of_operand hfails⟩

/-- **Searches are refused if the literal of their pattern does not end.** -/
theorem isRefused_searches (hne : r.searches ≠ []) : (chained .or r.searches).IsRefused := by
  rw [searches] at hne ⊢
  cases hsubject : r.inSubject <;> cases htext : r.inText <;> rw [hsubject, htext] at hne
  · exact absurd rfl hne
  · exact isRefused_search hscope h rfl
  · exact isRefused_search hscope h rfl
  · exact isRefused_pair hscope h

end Searches

/-! ### Chains -/

theorem isRefused_chained (joiner : Joiner) {cs : List Clause} {c : Clause} (h : c.IsRefused)
    (hcs : ∀ d ∈ cs, d.IsAppendable 0) : (chained joiner (cs ++ [c])).IsRefused := by
  match cs, hcs with
  | [], _ => exact h
  | d :: cs, hcs =>
      have hchained : chained joiner (d :: cs ++ [c]) =
          .group ⟨false, Group.chainMembers joiner (d :: cs ++ [c])⟩ := by
        cases cs <;> rfl
      rw [hchained]
      exact isRefused_group (chainMembers_ne_nil joiner (List.cons_ne_nil _ _))
        (isRefusedChain_concat joiner h hcs)

theorem forall_mem_ite {P : Clause → Prop} {p q : Bool} {c d : Clause} (hc : P c) (hd : P d) :
    ∀ e ∈ (if p then [c] else []) ++ (if q then [d] else []), P e := by
  cases p <;> cases q <;> simp [hc, hd]

theorem isAppendable_conditions (hscope : ∀ s ∈ r.scope, s.IsWellFormed) :
    ∀ d ∈ r.conditions, d.IsAppendable 0 := by
  have hspell {kind : Kind} (h : kind.requirement ≠ .required) :
      (r.spell kind none).IsAppendable 0 := ⟨⟨h, hscope⟩, trivial, Nat.le_refl 0⟩
  exact forall_mem_ite (hspell (by decide)) (hspell (by decide))

theorem isAppendable_searches (hscope : ∀ s ∈ r.scope, s.IsWellFormed) (h : r.pattern.IsLiteral) :
    ∀ c ∈ r.searches, c.IsAppendable 0 := by
  have hspell {kind : Kind} (hallowed : kind.requirement ≠ .forbidden)
      (hshape : kind.shape = .pattern) :
      (r.spell kind (some (.pattern r.pattern))).IsAppendable 0 :=
    ⟨⟨⟨hallowed, hshape.symm, h⟩, hscope⟩, trivial, Nat.le_refl 0⟩
  exact forall_mem_ite (hspell (by decide) rfl) (hspell (by decide) rfl)

/-! ### The clause of a rule -/

theorem toClause?_eq_none_iff : r.toClause? = none ↔ r.inSubject = false ∧ r.inText = false := by
  rw [toClause?, searches]
  cases r.inSubject <;> cases r.inText <;> simp

theorem toClause?_eq_some_iff {c : Clause} : r.toClause? = some c ↔
    r.searches ≠ [] ∧ c = chained .and (r.conditions ++ [chained .or r.searches]) := by
  rw [toClause?]
  split
  · rename_i h
    exact iff_of_false nofun fun hc => hc.1 h
  · rename_i hne
    exact ⟨fun h => ⟨hne, (Option.some.inj h).symm⟩, fun h => congrArg some h.2.symm⟩

/-- **The clause of a rule is refused if its literal does not end.** -/
theorem isRefused_toClause? {c : Clause} (hscope : ∀ s ∈ r.scope, s.IsWellFormed)
    (h : IsUnreadable r.pattern) (hc : r.toClause? = some c) : c.IsRefused := by
  obtain ⟨hne, rfl⟩ := toClause?_eq_some_iff.1 hc
  exact isRefused_chained .and (isRefused_searches hscope h hne) (isAppendable_conditions hscope)

theorem isAppendable_chained (joiner : Joiner) {levels : Nat} {cs : List Clause} (hne : cs ≠ [])
    (h : ∀ c ∈ cs, c.IsAppendable levels) : (chained joiner cs).IsAppendable (levels + 1) := by
  match cs, hne with
  | [c], _ =>
      have hc := h c (List.mem_singleton_self c)
      exact ⟨hc.well, hc.statement, Nat.le_succ_of_le hc.depth⟩
  | c :: d :: rest, hne =>
      refine ⟨membersWellFormed_chainMembers joiner hne fun c hc => (h c hc).well, Or.inr ?_,
        Nat.succ_le_succ (Canonical.membersDepth_chainMembers_le_iff.2 fun c hc => (h c hc).depth)⟩
      rw [Group.chain, ← List.length_map Member.clause, Canonical.clauses_chainMembers]
      exact Nat.le_add_left 2 rest.length

/-- **The clause of a rule is read back if its pattern is a literal.** -/
theorem isAppendable_toClause? {c : Clause} (hscope : ∀ s ∈ r.scope, s.IsWellFormed)
    (h : r.pattern.IsLiteral) (hc : r.toClause? = some c) : c.IsAppendable 2 := by
  obtain ⟨hne, rfl⟩ := toClause?_eq_some_iff.1 hc
  have hsearches : (chained .or r.searches).IsAppendable 1 :=
    isAppendable_chained .or hne (isAppendable_searches hscope h)
  refine isAppendable_chained .and
    (List.append_ne_nil_of_right_ne_nil _ (List.cons_ne_nil _ [])) fun d hd => ?_
  rcases List.mem_append.1 hd with hd | hd
  · have hd := isAppendable_conditions hscope d hd
    exact ⟨hd.well, hd.statement, Nat.le_succ_of_le hd.depth⟩
  · rwa [List.mem_singleton.1 hd]

/-! ### The pattern of a rule -/

/-- The pattern of a rule has the escaped source, in which no slash ends the literal. -/
theorem covers_of_ofSource {source : String}
    (h : (ofSource source).map PatternRule.pattern = .ok r.pattern) :
    r.pattern.source = escapeSlashes source ∧ r.pattern.flags.spaced = false ∧
      Covers {} r.pattern.source.toList := by
  obtain ⟨plain, hplain, hpattern⟩ := map_eq_ok_iff.1 h
  obtain ⟨p, hp, hread⟩ := bind_eq_ok_iff.1 hplain
  obtain rfl := Except.ok.inj hread
  obtain ⟨hsource, hflags⟩ := yields_read _ _ p hp
  rw [show p = r.pattern from hpattern] at hsource hflags
  have hspaced : r.pattern.flags.spaced = false := by
    rw [← Except.ok.inj hflags]
    rfl
  refine ⟨hsource, hspaced, ?_⟩
  rw [hsource]
  exact covers_escapeSlashes source

/-- **The pattern of a rule is a literal exactly if a slash ends its source.** -/
theorem isLiteral_iff_of_ofSource {source : String}
    (h : (ofSource source).map PatternRule.pattern = .ok r.pattern) :
    r.pattern.IsLiteral ↔ ¬ Pattern.IsUnended source := by
  obtain ⟨hsource, -, hcovers⟩ := covers_of_ofSource h
  rw [isLiteral_iff hcovers, hsource, isUnended_escapeSlashes_iff]

theorem isUnreadable_of_ofSource {source : String}
    (h : (ofSource source).map PatternRule.pattern = .ok r.pattern)
    (hsource : Pattern.IsUnended source) : IsUnreadable r.pattern := by
  obtain ⟨heq, hspaced, hcovers⟩ := covers_of_ofSource h
  exact ⟨hspaced, hcovers, by rwa [heq, isUnended_escapeSlashes_iff]⟩

end PatternRule

namespace RuleBook

variable {b : RuleBook}

/-- Whatever was done with a book, its document is what its source is read as. -/
theorem parse_after (h : b.IsInitial) (operations : List (BookOperation × UInt64)) :
    parse (b.after operations).source = .ok (b.after operations).document := by
  refine (isConsistent ?_).document
  rcases after_eq_or_isRead b operations with heq | hread
  · rw [heq]
    exact h.eq_or_isRead
  · exact Or.inr hread

/-! ### Hiding by a pattern -/

/-- What becomes of a book and a rule, and why. -/
theorem hidePattern_cases (hb : parse b.source = .ok b.document) {source : String}
    {rule : PatternRule}
    (hpattern : (PatternRule.ofSource source).map PatternRule.pattern = .ok rule.pattern)
    (hscope : ∀ s ∈ rule.scope, s.IsWellFormed)
    (hroom : ∀ c ∈ rule.toClause?,
      byteLength (b.extended (statementText c)).toList ≤ ({} : Limits).size)
    (timestamp : UInt64) :
    rule.toClause? = none ∧ b.hidePattern rule timestamp = .ok (.rejected, b) ∨
      ∃ c, rule.toClause? = some c ∧
        (Pattern.IsUnended source ∧ (∃ fault, b.hidePattern rule timestamp = .error fault) ∨
          ¬ Pattern.IsUnended source ∧
            (c ∈ b.statements ∧ b.hidePattern rule timestamp = .ok (.present, b) ∨
              c ∉ b.statements ∧ ∃ b', b.hidePattern rule timestamp = .ok (.added, b') ∧
                b.IsAdded b' c)) := by
  cases hc : rule.toClause? with
  | none =>
      refine Or.inl ⟨rfl, ?_⟩
      rw [hidePattern, hc]
  | some c =>
      have hhide : b.hidePattern rule timestamp = b.append c timestamp := by rw [hidePattern, hc]
      rw [hhide]
      refine Or.inr ⟨c, rfl, ?_⟩
      by_cases hsource : Pattern.IsUnended source
      · have hrefused := PatternRule.isRefused_toClause? hscope
          (PatternRule.isUnreadable_of_ofSource hpattern hsource) hc
        exact Or.inl ⟨hsource, append_of_isRefused hb hrefused timestamp⟩
      · have happend := PatternRule.isAppendable_toClause? hscope
          ((PatternRule.isLiteral_iff_of_ofSource hpattern).2 hsource) hc
        have hdepth : c.IsAppendable ({} : Limits).depth :=
          ⟨happend.well, happend.statement, Nat.le_trans happend.depth (by decide)⟩
        exact Or.inr ⟨hsource, append_of_isAppendable hb hdepth (hroom c hc) timestamp⟩

/-- **Hiding by a pattern fails exactly if the literal of the pattern does not end.** Whatever was
done with a book, a rule for the pattern of a source, with any conditions and over any scope that
can be written, is rejected exactly if it searches nowhere. It is refused exactly if it searches
somewhere and the source is empty, or a slash behind it would belong to it. Otherwise its clause is
a statement of the book already, or becomes the last one. -/
theorem hidePattern_outcome (h : b.IsInitial) (operations : List (BookOperation × UInt64))
    {source : String} {rule : PatternRule}
    (hpattern : (PatternRule.ofSource source).map PatternRule.pattern = .ok rule.pattern)
    (hscope : ∀ s ∈ rule.scope, s.IsWellFormed)
    (hroom : ∀ c ∈ rule.toClause?,
      byteLength ((b.after operations).extended (statementText c)).toList ≤ ({} : Limits).size)
    (timestamp : UInt64) :
    ((∃ b', (b.after operations).hidePattern rule timestamp = .ok (.rejected, b')) ↔
      rule.inSubject = false ∧ rule.inText = false) ∧
    ((∃ fault, (b.after operations).hidePattern rule timestamp = .error fault) ↔
      (rule.inSubject = true ∨ rule.inText = true) ∧ Pattern.IsUnended source) ∧
    ∀ outcome b', (b.after operations).hidePattern rule timestamp = .ok (outcome, b') →
      outcome = .rejected ∧ b' = b.after operations ∨
      ∃ c, rule.toClause? = some c ∧
        (outcome = .present ∧ b' = b.after operations ∧ c ∈ (b.after operations).statements ∨
          outcome = .added ∧ c ∉ (b.after operations).statements ∧
            (b.after operations).IsAdded b' c) := by
  have hsearched : (rule.inSubject = true ∨ rule.inText = true) ↔
      ¬ (rule.inSubject = false ∧ rule.inText = false) := by
    rw [not_and_or, Bool.not_eq_false, Bool.not_eq_false]
  have hokay {x : HideOutcome × RuleBook} :
      ¬ ∃ fault : SourceFault, Except.ok x = .error fault := by
    rintro ⟨fault, hfault⟩
    cases hfault
  have hother {outcome : HideOutcome} {book : RuleBook} (hne : outcome ≠ .rejected) :
      ¬ ∃ b', (.ok (outcome, book) : Except SourceFault _) = .ok (.rejected, b') := by
    rintro ⟨b', hrejected⟩
    exact hne (congrArg Prod.fst (Except.ok.inj hrejected))
  rw [hsearched, ← PatternRule.toClause?_eq_none_iff]
  rcases hidePattern_cases (parse_after h operations) hpattern hscope hroom timestamp with
    ⟨hc, hhide⟩ | ⟨c, hc, hcases⟩
  · rw [hc, hhide]
    refine ⟨iff_of_true ⟨_, rfl⟩ rfl, iff_of_false hokay fun hno => hno.1 rfl, ?_⟩
    rintro outcome b' ⟨⟩
    exact Or.inl ⟨rfl, rfl⟩
  have hsome : ¬ rule.toClause? = none := by
    rw [hc]
    exact Option.some_ne_none c
  rcases hcases with ⟨hsource, fault, hhide⟩ | ⟨hsource, ⟨hmem, hhide⟩ | ⟨hmem, b', hhide, hadded⟩⟩
  all_goals rw [hhide]
  · refine ⟨iff_of_false ?_ hsome, iff_of_true ⟨fault, rfl⟩ ⟨hsome, hsource⟩, ?_⟩
    · rintro ⟨b', hrejected⟩
      cases hrejected
    · rintro outcome b' ⟨⟩
  · refine ⟨iff_of_false (hother (by decide)) hsome, iff_of_false hokay fun h => hsource h.2, ?_⟩
    rintro outcome b' ⟨⟩
    exact Or.inr ⟨c, hc, Or.inl ⟨rfl, rfl, hmem⟩⟩
  · refine ⟨iff_of_false (hother (by decide)) hsome, iff_of_false hokay fun h => hsource h.2, ?_⟩
    rintro outcome b' ⟨⟩
    exact Or.inr ⟨c, hc, Or.inr ⟨rfl, hmem, hadded⟩⟩

/-- The source `.`, over a board and searched for in two places, is added to the blank book. In
`(?P<a[>.)`, the bracket in the name of the group keeps the literal open, so that one is refused. -/
theorem hidePattern_outcome_of_bracket :
    ∃ rule rule' : PatternRule,
      (PatternRule.ofSource ".").map PatternRule.pattern = .ok rule.pattern ∧
      (PatternRule.ofSource "(?P<a[>.)").map PatternRule.pattern = .ok rule'.pattern ∧
      (∃ c b', rule.toClause? = some c ∧ blank.hidePattern rule 1 = .ok (.added, b') ∧
        blank.IsAdded b' c) ∧
      ∃ fault, blank.hidePattern rule' 1 = .error fault := by
  have hget {x : Except Pattern.Fault PatternRule} (h : x.toOption.isSome = true) :
      x = .ok (x.toOption.get h) := by
    cases x with
    | error fault => cases h
    | ok rule => rfl
  let plain : PatternRule := (PatternRule.ofSource ".").toOption.get (by decide +kernel)
  let rule : PatternRule :=
    { plain with scope := some ⟨"b", .anywhere⟩, openingOnly := true, inSubject := true }
  let rule' : PatternRule := (PatternRule.ofSource "(?P<a[>.)").toOption.get (by decide +kernel)
  have hpattern : (PatternRule.ofSource ".").map PatternRule.pattern = .ok rule.pattern :=
    congrArg (Except.map PatternRule.pattern) (hget (by decide +kernel))
  have hpattern' : (PatternRule.ofSource "(?P<a[>.)").map PatternRule.pattern = .ok rule'.pattern :=
    congrArg (Except.map PatternRule.pattern) (hget (by decide +kernel))
  have hscope : ∀ s ∈ rule.scope, s.IsWellFormed := by
    rintro _ ⟨⟩
    exact ⟨by decide, List.all_eq_true.1 (by decide +kernel)⟩
  have hscope' : ∀ s ∈ rule'.scope, s.IsWellFormed := by
    have hnone : rule'.scope = none := by decide +kernel
    rw [hnone]
    exact fun _ hs => (nomatch hs)
  have hroom : ∀ c ∈ rule.toClause?,
      byteLength (blank.extended (statementText c)).toList ≤ 1048576 := by decide +kernel
  have hroom' : ∀ c ∈ rule'.toClause?,
      byteLength (blank.extended (statementText c)).toList ≤ 1048576 := by decide +kernel
  obtain ⟨hrejected, hrefused, hadds⟩ :=
    hidePattern_outcome (Or.inl rfl) [] hpattern hscope hroom 1
  obtain ⟨-, hrefused', -⟩ := hidePattern_outcome (Or.inl rfl) [] hpattern' hscope' hroom' 1
  have hended : ¬ Pattern.IsUnended "." := by decide
  have hunended : Pattern.IsUnended "(?P<a[>.)" := by decide
  have htext : rule'.inText = true := by decide +kernel
  refine ⟨rule, rule', hpattern, hpattern', ?_, hrefused'.2 ⟨Or.inr htext, hunended⟩⟩
  cases hhide : blank.hidePattern rule 1 with
  | error fault => exact absurd (hrefused.1 ⟨fault, hhide⟩).2 hended
  | ok added =>
      obtain ⟨outcome, b'⟩ := added
      rcases hadds outcome b' hhide with ⟨rfl, -⟩ | ⟨c, hc, ⟨-, -, hmem⟩ | ⟨rfl, -, hadded⟩⟩
      · cases (hrejected.1 ⟨b', hhide⟩).1
      · exact absurd hmem List.not_mem_nil
      · exact ⟨c, b', hc, rfl, hadded⟩

end RuleBook

end PostFilter
