import PostFilter.Proofs.Accepted.Arguments
import PostFilter.Proofs.Reading.Documents
import PostFilter.Proofs.Replacement.Template

/-!
# Documents — what is read can be written

Whatever a reader makes of a text is well-formed, from scopes and patterns up to statements: one
lemma for each reader, each from those of the readers that it calls. So a document that was read is
well-formed (`parse_isWellFormed`) and can be read back (`parse_isReadable`).
-/

namespace PostFilter.Document

open Text

/-! ### Scopes -/

theorem ofList_ne_empty {s : List Char} (h : s.isEmpty = false) : String.ofList s ≠ "" := by
  intro heq
  have hnil : s = [] := by
    rw [← String.toList_ofList (l := s), heq]
    rfl
  rw [hnil] at h
  cases h

theorem yields_readScope (whole s : List Char) :
    Yields (readScope whole s) fun r => r.value.IsWellFormed := by
  rw [readScope]
  split
  · exact yields_error _
  · rename_i body _
    dsimp only
    split
    · exact yields_error _
    · rename_i hboard
      rw [Bool.or_eq_true, not_or, Bool.not_eq_true, Bool.not_eq_true, Bool.not_eq_false'] at hboard
      have hscope (thread : ThreadScope) : Scope.IsWellFormed ⟨String.ofList (trimList
          (((splitFirst? (· == ',') body.value).map (·.1)).getD body.value)), thread⟩ := by
        refine ⟨ofList_ne_empty hboard.1, ?_⟩
        rw [String.toList_ofList]
        exact List.all_eq_true.1 hboard.2
      split
      · exact yields_ok (hscope _)
      · exact yields_ok (hscope _)
      · split
        · exact yields_ok (hscope _)
        · exact yields_error _

theorem yields_readScope? (s : List Char) :
    Yields (readScope? s) fun r => ∀ scope ∈ r.value, scope.IsWellFormed := by
  rw [readScope?.eq_def]
  split
  · refine yields_map (yields_readScope _ _) fun r hr => ?_
    rintro _ ⟨⟩
    exact hr
  · refine yields_ok ?_
    rintro _ ⟨⟩

/-! ### Patterns -/

/-- What was scanned is scanned again, whatever followed it. -/
theorem scanPattern_scanned {inClass : Bool} {s a b : List Char}
    (h : scanPattern inClass s = some (a, b)) :
    scanPattern inClass (a ++ ['/']) = some (a, []) := by
  fun_induction scanPattern inClass s generalizing a b with
  | case1 => cases h
  | case2 => cases h
  | case3 inClass c hc d more ih =>
      -- The backslash and the character behind it both belong to what is scanned.
      obtain ⟨⟨a', b'⟩, hmore, heq⟩ := Option.map_eq_some_iff.1 h
      cases heq
      rw [List.cons_append, List.cons_append, scanPattern.eq_def]
      simp only [if_pos hc, ih hmore, Option.map_some]
  | case4 inClass c rest hc hslash =>
      cases h
      rw [Bool.and_eq_true, Bool.not_eq_true'] at hslash
      rw [hslash.2]
      rfl
  | case5 inClass c rest hc hslash =>
      rename_i ih
      obtain ⟨⟨a', b'⟩, hmore, heq⟩ := Option.map_eq_some_iff.1 h
      cases heq
      rw [List.cons_append, scanPattern.eq_def]
      simp only [if_neg hc, if_neg hslash]
      exact (congrArg (Option.map _) (ih hmore)).trans rfl

theorem scanPattern_of_readSource? {s : List Char} {r : Reading (List Char) s}
    (h : readSource? s = some r) : scanPattern false s = some (r.value, r.rest) := by
  rw [readSource?] at h
  split at h
  · cases h
  · rename_i hscan
    cases h
    exact hscan

theorem yields_read (source flags : String) :
    Yields (Pattern.read source flags) fun p =>
      p.source = source ∧ Pattern.Flags.ofLetters flags.toList = .ok p.flags := by
  rw [Pattern.read]
  refine yields_bind (P := fun read => Pattern.Flags.ofLetters flags.toList = .ok read)
    (fun _ h => h) fun read hread => ?_
  rw [Pattern.ofFlags]
  split
  · exact yields_error _
  · exact yields_ok ⟨rfl, hread⟩

theorem yields_readPattern (s : List Char) :
    Yields (readPattern s) fun r => r.value.IsLiteral := by
  rw [readPattern.eq_def]
  split
  · split
    · exact yields_error _
    · rename_i source hsource
      split
      · exact yields_error _
      · rename_i hne
        dsimp only
        split
        · exact yields_error _
        · rename_i p hp
          have hp : p.source = String.ofList source.value := (yields_read _ _ p hp).1
          refine yields_ok (show p.IsLiteral from ?_)
          rw [Pattern.IsLiteral, hp, String.toList_ofList]
          exact ⟨ofList_ne_empty (Bool.not_eq_true _ ▸ hne),
            scanPattern_scanned (scanPattern_of_readSource? hsource)⟩
  · exact yields_error _

/-! ### Spells -/

theorem yields_readArgument (kind : Kind) (whole s : List Char) :
    Yields (readArgument kind whole s) fun r =>
      r.value.shape = kind.shape ∧ r.value.IsWellFormed := by
  rw [readArgument.eq_def]
  split
  · rename_i hshape
    dsimp only
    split
    · exact yields_error _
    · rename_i p hp
      split
      · exact yields_error _
      · exact yields_ok ⟨hshape.symm, yields_readPattern _ p hp⟩
  · rename_i hshape
    split
    · exact yields_error _
    · rename_i t _
      dsimp only
      split
      · exact yields_error _
      · rename_i hne
        refine yields_ok ⟨hshape.symm, ofList_ne_empty (Bool.not_eq_true _ ▸ hne), ?_⟩
        change String.ofList (trimList (String.ofList (trimList t.value)).toList) = _
        rw [String.toList_ofList, trimList_trimList]
  · split
    · exact yields_error _
    · dsimp only
      split
      · exact yields_error _
      · split
        · exact yields_error _
        · rename_i argument hargument
          exact yields_ok (yields_parseArgument _ _ argument hargument)

theorem yields_readArgument? (kind : Kind) (whole s : List Char) :
    Yields (readArgument? kind whole s) fun r => kind.Takes r.value := by
  rw [readArgument?.eq_def]
  split
  · split
    · exact yields_error _
    · rename_i hallowed
      exact yields_map (yields_readArgument kind _ _) fun r hr => ⟨hallowed, hr⟩
  · split
    · exact yields_error _
    · rename_i hrequired
      exact yields_ok hrequired

theorem yields_readSpell (whole s : List Char) :
    Yields (readSpell whole s) fun r => r.value.IsWellFormed := by
  rw [readSpell]
  dsimp only
  split
  · exact yields_error _
  · split
    · exact yields_error _
    · rename_i kind _
      split
      · exact yields_error _
      · rename_i scope hscope
        split
        · exact yields_error _
        · rename_i argument hargument
          exact yields_ok ⟨yields_readArgument? kind _ _ argument hargument,
            yields_readScope? _ scope hscope⟩

/-! ### Chains -/

theorem isWellFormed_negateIf {c : Clause} (h : c.IsWellFormed) (negated : Bool) :
    (c.negateIf negated).IsWellFormed := by
  cases negated with
  | false => exact h
  | true =>
      cases c with
      | spell s => exact ⟨h.argument, h.scope⟩
      | group g =>
          obtain ⟨negated, members⟩ := g
          exact h

theorem membersWellFormed_cons {c : Clause} (joiner : Joiner) (hc : c.IsWellFormed) :
    ∀ {members : List Member}, Group.MembersWellFormed members →
    Group.MembersWellFormed (⟨c, joiner⟩ :: members)
  | _ :: _, h => ⟨hc, h⟩

theorem yields_readChain {inside : Bool}
    {operand : (s : List Char) → Except Failure (Taking Clause s)}
    (hoperand : ∀ s, Yields (operand s) fun c => c.value.IsWellFormed) (s : List Char) :
    Yields (readChain inside operand s) fun r => Group.MembersWellFormed r.value := by
  fun_induction readChain inside operand s with
  | case1 => exact yields_error _
  | case2 => exact yields_error _
  | case3 s c hc => exact yields_ok ⟨hoperand s c hc, rfl⟩
  | case4 => exact yields_error _
  | case5 s c hc _ _ _ _ joiner _ more hmore ih =>
      exact yields_ok (membersWellFormed_cons joiner (hoperand s c hc) (ih more hmore))

theorem yields_readGroup {operand : (s : List Char) → Except Failure (Taking Clause s)}
    (hoperand : ∀ s, Yields (operand s) fun c => c.value.IsWellFormed) (whole s : List Char) :
    Yields (readGroup operand whole s) fun r => r.value.IsWellFormed := by
  rw [readGroup]
  split
  · exact yields_error _
  · split
    · exact yields_error _
    · rename_i members hmembers
      split
      · exact yields_error _
      · exact yields_ok (yields_readChain hoperand _ members hmembers)

section Operands

variable {group : (whole s : List Char) → Except Failure (Reading Group s)}
  (hgroup : ∀ whole s, Yields (group whole s) fun r => r.value.IsWellFormed)
include hgroup

theorem yields_readPlainOperand (inside : Bool) (s : List Char) :
    Yields (readPlainOperand inside group s) fun c => c.value.IsWellFormed := by
  rw [readPlainOperand.eq_def]
  split
  · exact yields_error _
  · split
    · exact yields_map (hgroup _ _) fun g hg => hg
    · split
      · split
        · exact yields_error _
        · exact yields_map (yields_readSpell _ _) fun s hs => hs
      · split
        · exact yields_error _
        · exact yields_error _

theorem yields_readOperand (inside : Bool) (s : List Char) :
    Yields (readOperand inside group s) fun c => c.value.IsWellFormed := by
  rw [readOperand]
  exact yields_map (yields_readPlainOperand hgroup inside _) fun c hc => isWellFormed_negateIf hc _

end Operands

theorem yields_readGroupWithin (limit : Nat) : ∀ (levels : Nat) (whole s : List Char),
    Yields (readGroupWithin limit levels whole s) fun r => r.value.IsWellFormed
  | 0, _, _ => yields_error _
  | levels + 1, _, _ =>
      yields_readGroup (yields_readOperand (yields_readGroupWithin limit levels) true) _ _

/-! ### Statements -/

/-- Whether a statement can be written and read back. -/
def IsWellFormedStatement : Statement → Prop
  | .clause c => c.IsWellFormed
  | .replacement _ rule => rule.IsWellFormed

/-- A rule has its template in the stored notation once it is made. -/
theorem isWellFormed_make {scope : Option Scope} {p : Pattern}
    (hscope : ∀ s ∈ scope, s.IsWellFormed) (hp : p.IsLiteral) (template : String) :
    (Replacement.make scope p template).IsWellFormed :=
  ⟨hscope, hp, Replacement.normalize_normalize p template⟩

theorem yields_readReplacement (direction : Direction) (whole s : List Char) :
    Yields (readReplacement direction whole s) fun r => r.value.IsWellFormed := by
  rw [readReplacement]
  split
  · exact yields_error _
  · rename_i scope hscope
    have hscope := yields_readScope? s scope hscope
    split
    · exact yields_error _
    · dsimp only
      split
      · exact yields_error _
      · rename_i p hp
        have hp := yields_readPattern _ p hp
        split
        · exact yields_map (yields_any _) fun _ _ => isWellFormed_make hscope hp _
        · exact yields_map (yields_any _) fun _ _ => isWellFormed_make hscope hp _

theorem isWellFormed_statementClause : ∀ {members : List Member},
    Group.MembersWellFormed members → (statementClause members).IsWellFormed
  | [⟨_, _⟩], h => h.1
  | _ :: _ :: _, h => h

theorem yields_readStatement (limit : Nat) (s : List Char) :
    Yields (readStatement limit s) fun t => IsWellFormedStatement t.value := by
  rw [readStatement.eq_def]
  split
  · exact yields_error _
  · split
    · dsimp only
      split
      · exact yields_error _
      · rename_i rule hrule
        exact yields_map (yields_any _) fun _ _ => yields_readReplacement _ _ _ rule hrule
    · split
      · exact yields_error _
      · rename_i chain hchain
        have hmembers := yields_readChain
          (yields_readOperand (yields_readGroupWithin limit limit) false) _ chain hchain
        split
        · exact yields_error _
        · exact yields_ok (isWellFormed_statementClause hmembers)

theorem yields_readStatements (limit : Nat) (s : List Char) :
    Yields (readStatements limit s) fun statements =>
      ∀ statement ∈ statements, IsWellFormedStatement statement := by
  fun_induction readStatements limit s with
  | case1 => exact yields_ok (by simp)
  | case2 => exact yields_error _
  | case3 => exact yields_error _
  | case4 s start _ statement hstatement _ _ more hmore ih =>
      exact yields_ok (List.forall_mem_cons.2
        ⟨yields_readStatement limit _ statement hstatement, ih more hmore⟩)

/-! ### Documents -/

theorem membersWellFormed_chainMembers (joiner : Joiner) : ∀ {cs : List Clause}, cs ≠ [] →
    (∀ c ∈ cs, c.IsWellFormed) → Group.MembersWellFormed (Group.chainMembers joiner cs)
  | [c], _, h => ⟨h c (by simp), rfl⟩
  | c :: d :: rest, _, h =>
      membersWellFormed_cons joiner (h c (by simp))
        (membersWellFormed_chainMembers joiner (List.cons_ne_nil d rest)
          fun e he => h e (List.mem_cons_of_mem _ he))

/-- The clauses of statements that can be written can be written. -/
theorem isWellFormed_of_mem_clauses {statements : List Statement}
    (h : ∀ statement ∈ statements, IsWellFormedStatement statement) :
    ∀ c ∈ statements.filterMap Statement.clause?, c.IsWellFormed := by
  intro c hc
  obtain ⟨statement, hmem, hs⟩ := List.mem_filterMap.1 hc
  have hstatement := h statement hmem
  cases statement with
  | clause c' =>
      cases hs
      exact hstatement
  | replacement direction rule => cases hs

/-- The rules of statements that can be written can be written. -/
theorem isWellFormed_of_mem_rules {statements : List Statement}
    (h : ∀ statement ∈ statements, IsWellFormedStatement statement) (direction : Direction) :
    ∀ rule ∈ statements.filterMap (Statement.replacement? direction), rule.IsWellFormed := by
  intro rule hrule
  obtain ⟨statement, hmem, hs⟩ := List.mem_filterMap.1 hrule
  have hstatement := h statement hmem
  cases statement with
  | clause c => cases hs
  | replacement d rule' =>
      rw [Statement.replacement?] at hs
      split at hs
      · cases hs
        exact hstatement
      · cases hs

/-- Clauses that can be written make a filter that can. -/
theorem isWellFormed_filterOf {cs : List Clause} (h : ∀ c ∈ cs, c.IsWellFormed) :
    ∀ g ∈ filterOf cs, g.negated = false ∧ g.IsWellFormed := by
  intro g hg
  cases cs with
  | nil => cases hg
  | cons c rest =>
      cases hg
      exact ⟨rfl, membersWellFormed_chainMembers .or (List.cons_ne_nil c rest) h⟩

/-- Statements that can be written make a document that can. -/
theorem isWellFormed_ofStatements {statements : List Statement}
    (h : ∀ statement ∈ statements, IsWellFormedStatement statement) :
    (ofStatements statements).IsWellFormed :=
  ⟨isWellFormed_filterOf (isWellFormed_of_mem_clauses h), isWellFormed_of_mem_rules h .incoming,
    isWellFormed_of_mem_rules h .outgoing⟩

/-- **A document that was read is well-formed.** -/
theorem parse_isWellFormed {source : String} {limits : Limits} {d : Document}
    (h : parse source limits = .ok d) : d.IsWellFormed := by
  have hread : Yields (readDocument limits source.toList) IsWellFormed := by
    rw [readDocument]
    split
    · exact yields_error _
    · exact yields_map (yields_readStatements _ _) fun _ hs => isWellFormed_ofStatements hs
  rw [parse] at h
  cases hd : readDocument limits source.toList with
  | error failure => rw [hd] at h; cases h
  | ok d' =>
      rw [hd] at h
      cases h
      exact hread _ hd

/-- So it can be read back. -/
theorem parse_isReadable {source : String} {limits : Limits} {d : Document}
    (h : parse source limits = .ok d) : d.IsReadable := (parse_isWellFormed h).isReadable

end PostFilter.Document
