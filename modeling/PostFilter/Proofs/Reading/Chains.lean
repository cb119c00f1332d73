import PostFilter.Proofs.Reading.Spells
import PostFilter.Proofs.Text.Readings

/-!
# Documents — clauses are read as they are written

A chain is written operand by operand, with a joiner and blanks between them (`joinedText`). A
reader of operands that reads each of them back reads the whole chain back (`readChain_joinedText`,
the run lemma). By recursion over clauses, the reader of operands does (`readOperand_text`), as long
as parentheses are not nested deeper than it may go.
-/

namespace PostFilter.Document

open Text

/-- Whether a reader that takes something gives a value and leaves a rest. -/
def Takes {α : Type} {s : List Char} (result : Except Failure (Taking α s)) (value : α)
    (rest : List Char) : Prop :=
  ∃ t, result = .ok t ∧ t.value = value ∧ t.rest = rest

/-! ### Blanks -/

theorem skippedBlanks_rest {inside : Bool} {s : List Char} (h : Stops isAnyBlank s) :
    (skippedBlanks inside s).rest = s := by
  cases inside with
  | true => exact dropWhile_eq_self h
  | false => exact skipInline_eq_self (h.mono fun c hc => (Bool.or_eq_false_iff.1 hc).1)

theorem skippedBlanks_space {inside : Bool} {s : List Char} (h : Stops isAnyBlank s) :
    (skippedBlanks inside (' ' :: s)).rest = s := by
  cases inside with
  | true => exact dropWhile_append_of_stops h (s := [' ']) (List.forall_mem_singleton.2 rfl)
  | false =>
      exact dropWhile_append_of_stops (h.mono fun c hc => (Bool.or_eq_false_iff.1 hc).1)
        (s := [' ']) (List.forall_mem_singleton.2 rfl)

/-! ### Joiners -/

theorem joiner?_sign (j : Joiner) : joiner? j.sign = some j := by cases j <;> rfl

/-- A joiner between blanks. -/
theorem readJoiner?_sign (inside : Bool) (j : Joiner) {blanks rest : List Char}
    (hblanks : ∀ c ∈ blanks, isAnyBlank c = true) (hrest : Stops isAnyBlank rest) :
    Reads (readJoiner? inside (' ' :: j.sign :: (blanks ++ rest))) (some j) rest := by
  have hsign : Stops isAnyBlank (j.sign :: (blanks ++ rest)) :=
    stops_cons (by cases j <;> rfl)
  have hstart : (skippedBlanks inside (' ' :: j.sign :: (blanks ++ rest))).rest =
      j.sign :: (blanks ++ rest) := skippedBlanks_space hsign
  obtain ⟨n, hn, hvalue, hleft⟩ := next?_of_rest_cons hstart
  rw [readJoiner?]
  simp only [hn, hvalue, joiner?_sign]
  refine ⟨_, rfl, rfl, ?_⟩
  change skipAny n.rest = rest
  rw [hleft]
  exact dropWhile_append_of_stops hrest hblanks

/-- Inside parentheses, a chain ends at the one that closes them. -/
theorem readJoiner?_close (rest : List Char) :
    Reads (readJoiner? true (')' :: rest)) none (')' :: rest) := by
  have hstart : (skippedBlanks true (')' :: rest)).rest = ')' :: rest :=
    skippedBlanks_rest (stops_cons rfl)
  obtain ⟨n, hn, hvalue, -⟩ := next?_of_rest_cons hstart
  rw [readJoiner?]
  simp only [hn, hvalue]
  exact ⟨_, rfl, rfl, hstart⟩

/-- Outside parentheses, a chain ends at the end of a text, and at the end of a line if the next one
does not begin with a joiner. -/
theorem readJoiner?_end {rest : List Char} (h : rest = [] ∨ ∃ more, rest = '\n' :: '#' :: more) :
    Reads (readJoiner? false rest) none rest := by
  rcases h with rfl | ⟨more, rfl⟩
  · rw [readJoiner?]
    simp only [next?_of_rest_nil (r := skippedBlanks false []) rfl]
    exact ⟨_, rfl, rfl, rfl⟩
  · have hstart : (skippedBlanks false ('\n' :: '#' :: more)).rest = '\n' :: '#' :: more :=
      skipInline_eq_self (stops_cons rfl)
    obtain ⟨n, hn, hvalue, hleft⟩ := next?_of_rest_cons hstart
    -- The line feed joins nothing, so the reader looks past it; what stands there does not either.
    have hline : (n.andThen (skippedAny n.rest)).rest = '#' :: more := by
      change skipAny n.rest = _
      rw [hleft]
      exact dropWhile_eq_self (stops_cons rfl)
    obtain ⟨d, hd, hdvalue, -⟩ := next?_of_rest_cons hline
    rw [readJoiner?]
    simp only [hn, hvalue, hd, hdvalue]
    exact ⟨_, rfl, rfl, hstart⟩

/-! ### Written forms -/

/-- Members with their joiners between them; the second of the blanks around a joiner may be any. -/
def joinedText (blanks : List Char) : List Member → List Char
  | [] => []
  | [m] => m.clause.text.toList
  | m :: n :: rest =>
    m.clause.text.toList ++ (' ' :: m.joiner.sign :: (blanks ++ joinedText blanks (n :: rest)))

/-- A chain behind its first operand. -/
theorem joinedText_cons (blanks : List Char) (m n : Member) (rest : List Member)
    (tail : List Char) :
    joinedText blanks (m :: n :: rest) ++ tail = m.clause.text.toList ++
      (' ' :: m.joiner.sign :: (blanks ++ (joinedText blanks (n :: rest) ++ tail))) := by
  simp only [joinedText, List.append_assoc, List.cons_append]

theorem toList_chainText : ∀ members : List Member,
    (Group.chainText members).toList = joinedText [' '] members
  | [] => rfl
  | [⟨c, j⟩] => by rw [Group.chainText, joinedText]
  | ⟨c, j⟩ :: m :: rest => by
      rw [Group.chainText, joinedText, ← toList_chainText (m :: rest)]
      simp [Char.toString_eq_singleton]

/-- The written form of a clause, its negation left aside. -/
def plainText : Clause → List Char
  | .spell s => '#' :: spellBody s
  | .group g => '(' :: (joinedText [' '] g.members ++ [')'])

theorem toList_text_clause (c : Clause) :
    c.text.toList = (if c.isNegated then ['!'] else []) ++ plainText c := by
  cases c with
  | spell s => exact toList_text_spell s
  | group g =>
      obtain ⟨negated, members⟩ := g
      rw [Clause.text, Group.text, plainText, ← toList_chainText]
      cases negated <;> simp [Clause.isNegated]

/-- Whether a character begins an operand. -/
def beginsOperand (c : Char) : Bool := c == '!' || c == '#' || c == '('

theorem text_eq_cons (c : Clause) :
    ∃ d tail, c.text.toList = d :: tail ∧ beginsOperand d = true := by
  rw [toList_text_clause]
  by_cases hn : c.isNegated = true
  · exact ⟨'!', plainText c, by rw [if_pos hn]; rfl, rfl⟩
  · rw [if_neg hn]
    cases c with
    | spell s => exact ⟨'#', _, rfl, rfl⟩
    | group g => exact ⟨'(', _, rfl, rfl⟩

/-- A written chain begins with an operand. -/
theorem joinedText_eq_cons (blanks : List Char) {members : List Member} (h : members ≠ []) :
    ∃ d tail, joinedText blanks members = d :: tail ∧ beginsOperand d = true := by
  match members, h with
  | [m], _ => exact text_eq_cons m.clause
  | m :: n :: rest, _ =>
      obtain ⟨d, tail, htext, hd⟩ := text_eq_cons m.clause
      exact ⟨d, _, by rw [joinedText, htext]; rfl, hd⟩

theorem stops_of_beginsOperand {p : Char → Bool}
    (hp : p '!' = false ∧ p '#' = false ∧ p '(' = false) {d : Char}
    (hd : beginsOperand d = true) (tail : List Char) : Stops p (d :: tail) := by
  rw [beginsOperand, Bool.or_eq_true, Bool.or_eq_true, beq_iff_eq, beq_iff_eq, beq_iff_eq] at hd
  rcases hd with (rfl | rfl) | rfl
  · exact stops_cons hp.1
  · exact stops_cons hp.2.1
  · exact stops_cons hp.2.2

theorem stops_joinedText {p : Char → Bool} (hp : p '!' = false ∧ p '#' = false ∧ p '(' = false)
    (blanks : List Char) {members : List Member} (h : members ≠ []) (rest : List Char) :
    Stops p (joinedText blanks members ++ rest) := by
  obtain ⟨d, tail, htext, hd⟩ := joinedText_eq_cons blanks h
  rw [htext]
  exact stops_of_beginsOperand hp hd _

/-! ### Chains -/

/-- **A chain is read as it is written**, if its operands are. -/
theorem readChain_joinedText {inside : Bool}
    {operand : (s : List Char) → Except Failure (Taking Clause s)} {blanks tail : List Char}
    (hblanks : ∀ c ∈ blanks, isAnyBlank c = true)
    (hend : Reads (readJoiner? inside tail) none tail) (htail : Stops continuesSpell tail) :
    ∀ {members : List Member}, Group.MembersWellFormed members →
    (∀ m ∈ members, ∀ rest, Stops continuesSpell rest →
      Takes (operand (m.clause.text.toList ++ rest)) m.clause rest) →
    Takes (readChain inside operand (joinedText blanks members ++ tail)) members tail
  | [⟨c, j⟩], h, hoperand => by
      obtain ⟨t, ht, hvalue, hleft⟩ := hoperand ⟨c, j⟩ (by simp) tail htail
      rw [← hleft] at hend
      obtain ⟨n, hn, hnvalue, hnleft⟩ := hend
      obtain ⟨-, rfl⟩ := h
      rw [joinedText, readChain]
      simp only [ht, hn, hnvalue]
      exact ⟨_, rfl, by simp [Taking.andThen, Reading.map, hvalue], hnleft.trans hleft⟩
  | ⟨c, j⟩ :: m :: rest, h, hoperand => by
      have hmore : Stops isAnyBlank (joinedText blanks (m :: rest) ++ tail) :=
        stops_joinedText (by decide) blanks (List.cons_ne_nil _ _) tail
      -- The blank before the joiner ends the operand, whatever operands come behind.
      obtain ⟨t, ht, hvalue, hleft⟩ := hoperand ⟨c, j⟩ (by simp)
        (' ' :: j.sign :: (blanks ++ (joinedText blanks (m :: rest) ++ tail))) (stops_cons rfl)
      have hjoiner := readJoiner?_sign inside j hblanks hmore
      rw [← hleft] at hjoiner
      obtain ⟨n, hn, hnvalue, hnleft⟩ := hjoiner
      have ih := readChain_joinedText hblanks hend htail h.2
        fun m hm => hoperand m (List.mem_cons_of_mem _ hm)
      rw [← hnleft] at ih
      obtain ⟨u, hu, huvalue, huleft⟩ := ih
      rw [joinedText_cons, readChain]
      simp only [ht, hn, hnvalue, hu]
      refine ⟨_, rfl, ?_, huleft⟩
      simp [Taking.andThen, Reading.andThen, Reading.map, Taking.toReading, hvalue, huvalue]

/-! ### Operands -/

theorem direction?_spell {s : Spell} {rest : List Char} (hrest : Stops Char.isAlphanum rest) :
    direction? ('#' :: (spellBody s ++ rest)) = none := by
  have hword : (readWord (spellBody s ++ rest)).value = s.kind.word.toList := by
    rw [spellBody, List.append_assoc, List.append_assoc]
    exact (readWord_append (isAlphanum_of_mem_word s.kind)
      (stops_scopeText (by decide) s.scope (stops_argumentText (by decide) s.argument hrest))).1
  have hrep : (s.kind.word == "rep") = false :=
    beq_eq_false_iff_ne.2 (word_ne_word_direction s.kind .incoming)
  have houtrep : (s.kind.word == "outrep") = false :=
    beq_eq_false_iff_ne.2 (word_ne_word_direction s.kind .outgoing)
  rw [direction?]
  simp only [hword, String.ofList_toList, hrep, houtrep]
  rfl

theorem stops_alphanum {rest : List Char} (h : Stops continuesSpell rest) :
    Stops Char.isAlphanum rest := h.mono fun c hc => by
  rw [continuesSpell, Bool.or_eq_false_iff, Bool.or_eq_false_iff] at hc
  exact hc.1.1

variable {inside : Bool} {group : (whole s : List Char) → Except Failure (Reading Group s)}

theorem readPlainOperand_spell {s : Spell} (h : s.IsWellFormed) {rest : List Char}
    (hrest : Stops continuesSpell rest) :
    Takes (readPlainOperand inside group ('#' :: (spellBody s ++ rest)))
      (.spell { s with negated := false }) rest := by
  obtain ⟨r, hr, hvalue, hleft⟩ := readSpell_text h ('#' :: (spellBody s ++ rest)) hrest
  rw [readPlainOperand]
  simp only [direction?_spell (stops_alphanum hrest), hr]
  exact ⟨_, rfl, congrArg Clause.spell hvalue, hleft⟩

theorem readPlainOperand_group {g : Group} {text rest : List Char}
    (h : ∀ whole, Reads (group whole text) g rest) :
    Takes (readPlainOperand inside group ('(' :: text)) (.group g) rest := by
  obtain ⟨r, hr, hvalue, hleft⟩ := h ('(' :: text)
  rw [readPlainOperand]
  simp only [hr]
  exact ⟨_, rfl, congrArg Clause.group hvalue, hleft⟩

/-- The negation of an operand stands before it, and what stands behind decides what is negated. -/
theorem readOperand_eq (inside : Bool)
    (group : (whole s : List Char) → Except Failure (Reading Group s)) (negated : Bool)
    {text : List Char} (hblank : Stops isAnyBlank text) (hmark : Stops (· == '!') text) :
    ∃ body : Reading Unit ((if negated then ['!'] else []) ++ text), body.rest = text ∧
      readOperand inside group ((if negated then ['!'] else []) ++ text) =
        (readPlainOperand inside group body.rest).map fun c =>
          body.andTake (c.map fun c => c.negateIf negated) := by
  cases negated with
  | false =>
      have hstart : (skippedBlanks inside text).rest = text := skippedBlanks_rest hblank
      have hsign : (skippedBlanks inside text).sign? '!' = none :=
        sign?_eq_none (by rw [hstart]; exact hmark)
      refine ⟨skippedBlanks inside text, hstart, ?_⟩
      change readOperand inside group text = _
      rw [readOperand]
      rw [hsign]
      rfl
  | true =>
      have hstart : (skippedBlanks inside ('!' :: text)).rest = '!' :: text :=
        skippedBlanks_rest (stops_cons rfl)
      obtain ⟨m, hm, hmrest⟩ := sign?_of_rest_cons hstart
      have hbody : (m.andThen (skippedBlanks inside m.rest)).rest = text := by
        change (skippedBlanks inside m.rest).rest = text
        rw [hmrest]
        exact skippedBlanks_rest hblank
      refine ⟨m.andThen (skippedBlanks inside m.rest), hbody, ?_⟩
      change readOperand inside group ('!' :: text) = _
      rw [readOperand]
      rw [hm]
      rfl

theorem readOperand_negated (negated : Bool) {c : Clause} {text rest : List Char}
    (hblank : Stops isAnyBlank text) (hmark : Stops (· == '!') text)
    (h : Takes (readPlainOperand inside group text) c rest) :
    Takes (readOperand inside group ((if negated then ['!'] else []) ++ text))
      (c.negateIf negated) rest := by
  obtain ⟨body, hbody, he⟩ := readOperand_eq inside group negated hblank hmark
  rw [← hbody] at h
  obtain ⟨t, ht, hvalue, hleft⟩ := h
  rw [he, ht]
  exact ⟨_, rfl, congrArg (Clause.negateIf negated) hvalue, hleft⟩

/-- The first operand of a group begins it, and is not taken for the end of an empty one. -/
theorem skippedAny_joinedText {members : List Member} (hne : members ≠ []) (rest : List Char) :
    (skippedAny (joinedText [' '] members ++ ')' :: rest)).rest =
        joinedText [' '] members ++ ')' :: rest ∧
      ((skippedAny (joinedText [' '] members ++ ')' :: rest)).rest.head? == some ')') = false := by
  have hstart : (skippedAny (joinedText [' '] members ++ ')' :: rest)).rest =
      joinedText [' '] members ++ ')' :: rest :=
    dropWhile_eq_self (stops_joinedText (by decide) [' '] hne _)
  refine ⟨hstart, ?_⟩
  obtain ⟨d, tail, htext, hd⟩ := joinedText_eq_cons [' '] hne
  rw [hstart, htext, List.cons_append, List.head?_cons]
  exact beq_eq_false_iff_ne.2 fun heq => by cases heq; cases hd

/-- A group is read as it is written, if its operands are. -/
theorem readGroup_joinedText {operand : (s : List Char) → Except Failure (Taking Clause s)}
    {members : List Member} (h : Group.MembersWellFormed members)
    (hoperand : ∀ m ∈ members, ∀ rest, Stops continuesSpell rest →
      Takes (operand (m.clause.text.toList ++ rest)) m.clause rest) (whole rest : List Char) :
    Reads (readGroup operand whole (joinedText [' '] members ++ ')' :: rest)) ⟨false, members⟩
      rest := by
  have hne : members ≠ [] := by rintro rfl; exact h
  obtain ⟨hstart, hopen⟩ := skippedAny_joinedText hne rest
  have hblank : ∀ c ∈ [' '], isAnyBlank c = true := List.forall_mem_singleton.2 rfl
  have hchain := readChain_joinedText hblank (readJoiner?_close rest) (stops_cons rfl) h hoperand
  rw [← hstart] at hchain
  obtain ⟨t, ht, hvalue, hleft⟩ := hchain
  have hclose : t.toReading.rest = ')' :: rest := hleft
  obtain ⟨n, hn, hnleft⟩ := sign?_of_rest_cons hclose
  rw [readGroup]
  simp only [hopen, ht, hn]
  exact ⟨_, rfl, by simp [Reading.andThen, Reading.map, hvalue], hnleft⟩

mutual

/-- **A clause is read as it is written.** -/
theorem readOperand_text (limit : Nat) : ∀ (c : Clause), c.IsWellFormed →
    ∀ (inside : Bool) (levels : Nat), c.depth ≤ levels → ∀ rest, Stops continuesSpell rest →
    Takes (readOperand inside (readGroupWithin limit levels) (c.text.toList ++ rest)) c rest
  | .spell s, h, inside, levels, _, rest, hrest => by
      -- A spell is read without its negation, which the operand then restores; so is a group.
      have hc : (Clause.spell { s with negated := false }).negateIf s.negated = .spell s := by
        obtain ⟨kind, argument, scope, negated⟩ := s
        cases negated <;> rfl
      have hplain : Takes (readPlainOperand inside (readGroupWithin limit levels)
          ('#' :: (spellBody s ++ rest))) (.spell { s with negated := false }) rest :=
        readPlainOperand_spell h hrest
      have hread := readOperand_negated s.negated (stops_cons rfl) (stops_cons rfl) hplain
      rw [hc] at hread
      rw [toList_text_clause, List.append_assoc]
      exact hread
  | .group ⟨negated, members⟩, h, inside, levels + 1, hdepth, rest, hrest => by
      have hoperands := readOperand_members limit members h true levels
        (Nat.le_of_succ_le_succ hdepth)
      have hgroup (whole : List Char) := readGroup_joinedText h hoperands whole rest
      have hc : (Clause.group ⟨false, members⟩).negateIf negated = .group ⟨negated, members⟩ := by
        cases negated <;> rfl
      have hplain : Takes (readPlainOperand inside (readGroupWithin limit (levels + 1))
          ('(' :: (joinedText [' '] members ++ ')' :: rest))) (.group ⟨false, members⟩) rest :=
        readPlainOperand_group hgroup
      have hread := readOperand_negated negated (stops_cons rfl) (stops_cons rfl) hplain
      rw [hc] at hread
      have htext : plainText (.group ⟨negated, members⟩) ++ rest =
          '(' :: (joinedText [' '] members ++ ')' :: rest) := by
        simp [plainText]
      rw [toList_text_clause, List.append_assoc, htext]
      exact hread

theorem readOperand_members (limit : Nat) : ∀ (members : List Member),
    Group.MembersWellFormed members → ∀ (inside : Bool) (levels : Nat),
    Group.membersDepth members ≤ levels → ∀ m ∈ members, ∀ rest, Stops continuesSpell rest →
    Takes (readOperand inside (readGroupWithin limit levels) (m.clause.text.toList ++ rest))
      m.clause rest
  | [⟨c, j⟩], h, inside, levels, hdepth, m, hm, rest, hrest => by
      rw [List.mem_singleton.1 hm]
      exact readOperand_text limit c h.1 inside levels (Nat.max_le.1 hdepth |>.1) rest hrest
  | ⟨c, j⟩ :: n :: members, h, inside, levels, hdepth, m, hm, rest, hrest => by
      rcases List.mem_cons.1 hm with rfl | hm
      · exact readOperand_text limit c h.1 inside levels (Nat.max_le.1 hdepth |>.1) rest hrest
      · exact readOperand_members limit (n :: members) h.2 inside levels
          (Nat.max_le.1 hdepth |>.2) m hm rest hrest

end

end PostFilter.Document
