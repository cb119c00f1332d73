import PostFilter.Proofs.Grammar.Spells

/-!
# Documents — chains are read by the grammar

A reader of chains is made of a reader of operands. If operands are read by a grammar, then chains
of them are, groups of those, and operands that may be groups; `readGroupWithin` goes round once for
each level of parentheses, and so does `GroupTextWithin`.

A chain may be followed by blanks and then by the end of the text, a parenthesis or the end of a
line (`EndsChain`); when it is read, no joiner may stand behind that.
-/

namespace PostFilter.Document

open Text

/-- Whether a text begins with blanks and then with a way to write a value. -/
def BeginsBehind {α : Type} (blank : Char → Bool) (Item : α → List Char → Prop) (s : List Char)
    (value : α) (rest : List Char) : Prop :=
  ∃ blanks text, MadeOf blank blanks ∧ s = blanks ++ (text ++ rest) ∧ Item value text

/-- Whether a chain may end before this text. -/
def EndsChain (rest : List Char) : Prop := ∀ c ∈ rest.head?, c = ')' ∨ c = '\n'

/-- Whether a joiner has this sign. -/
def isJoiner (c : Char) : Bool := (joiner? c).isSome

/-! ### What is behind a reading -/

section Behind

variable {α : Type} {s : List Char} {r : Reading α s}

theorem rest_of_next?_eq_none (h : r.next? = none) : r.rest = [] := by
  cases hrest : r.rest with
  | nil => rfl
  | cons c rest =>
      obtain ⟨n, hn, -⟩ := next?_of_rest_cons hrest
      rw [h] at hn
      cases hn

theorem rest_of_next? {n : Reading Char s} (h : r.next? = some n) : r.rest = n.value :: n.rest := by
  cases hrest : r.rest with
  | nil =>
      rw [next?_of_rest_nil hrest] at h
      cases h
  | cons c rest =>
      obtain ⟨n', hn, hvalue, hleft⟩ := next?_of_rest_cons hrest
      cases h.symm.trans hn
      rw [hvalue, hleft]

theorem rest_of_sign? {c : Char} {n : Reading Unit s} (h : r.sign? c = some n) :
    r.rest = c :: n.rest := by
  obtain ⟨m, hm, rfl⟩ := Option.map_eq_some_iff.1 h
  obtain ⟨hm, hc⟩ := Option.filter_eq_some_iff.1 hm
  rw [rest_of_next? hm, eq_of_beq hc]
  rfl

end Behind

/-! ### Blanks -/

theorem isAnyBlank_of_isInlineBlank {c : Char} (h : isInlineBlank c = true) :
    isAnyBlank c = true := by rw [isAnyBlank, h, Bool.true_or]

theorem isAnyBlank_of_isBlankIn {inside : Bool} {c : Char} (h : isBlankIn inside c = true) :
    isAnyBlank c = true := by
  cases inside with
  | true => exact h
  | false => exact isAnyBlank_of_isInlineBlank h

theorem isAnyBlank_eq {c : Char} (h : isAnyBlank c = true) :
    c = ' ' ∨ c = '\t' ∨ c = '\r' ∨ c = '\n' := by
  simpa [isAnyBlank, isInlineBlank, or_assoc] using h

theorem exists_skipAny (s : List Char) :
    ∃ blanks, MadeOf isAnyBlank blanks ∧ s = blanks ++ skipAny s :=
  ⟨_, madeOf_takeWhile _ s, List.takeWhile_append_dropWhile.symm⟩

theorem exists_skippedBlanks (inside : Bool) (s : List Char) :
    ∃ blanks, MadeOf (isBlankIn inside) blanks ∧ s = blanks ++ (skippedBlanks inside s).rest := by
  cases inside with
  | true => exact exists_skipAny s
  | false => exact exists_skipInline s

theorem skipAny_append {blanks s : List Char} (hblanks : MadeOf isAnyBlank blanks)
    (hs : Stops isAnyBlank s) : skipAny (blanks ++ s) = s :=
  dropWhile_append_of_stops hs hblanks

theorem skippedBlanks_append {inside : Bool} {blanks s : List Char}
    (hblanks : MadeOf (isBlankIn inside) blanks) (hs : Stops (isBlankIn inside) s) :
    (skippedBlanks inside (blanks ++ s)).rest = s := by
  cases inside with
  | true => exact skipAny_append hblanks hs
  | false => exact skipInline_append hblanks hs

theorem stops_isBlankIn {s : List Char} (h : Stops isAnyBlank s) (inside : Bool) :
    Stops (isBlankIn inside) s := h.mono fun c hc => by
  by_contra hblank
  rw [Bool.not_eq_false] at hblank
  rw [isAnyBlank_of_isBlankIn hblank] at hc
  cases hc

/-! ### Joiners -/

theorem sign_of_joiner? {c : Char} {j : Joiner} (h : joiner? c = some j) : c = j.sign := by
  rw [joiner?] at h
  split at h
  · rename_i hc
    cases h
    exact eq_of_beq hc
  · split at h
    · rename_i hc
      cases h
      exact eq_of_beq hc
    · cases h

/-- What the reader of joiners says of a text: a joiner between blanks, or the end of a chain. -/
def JoinsAt (inside : Bool) (s : List Char) : Option Joiner → List Char → Prop
  | some j, rest => ∃ before after, MadeOf isAnyBlank before ∧ MadeOf isAnyBlank after ∧
      s = before ++ j.sign :: (after ++ rest)
  | none, rest => EndsChain rest ∧ ∃ blanks, MadeOf (isBlankIn inside) blanks ∧ s = blanks ++ rest

/-- A sign behind blanks is a joiner, with the blanks behind it. -/
theorem joinsAt_of_sign (inside : Bool) {s before t : List Char} {j : Joiner}
    (hbefore : MadeOf isAnyBlank before) (hs : s = before ++ j.sign :: t) :
    JoinsAt inside s (some j) (skipAny t) := by
  obtain ⟨after, hafter, ht⟩ := exists_skipAny t
  exact ⟨before, after, hbefore, hafter, by rw [← ht]; exact hs⟩

theorem readJoiner?_joinsAt (inside : Bool) (s : List Char) :
    Yields (readJoiner? inside s) fun r => JoinsAt inside s r.value r.rest := by
  obtain ⟨blanks, hblanks, hs⟩ := exists_skippedBlanks inside s
  have hany : MadeOf isAnyBlank blanks := hblanks.mono fun _ => isAnyBlank_of_isBlankIn
  rw [readJoiner?]
  split
  · rename_i h
    have hend : EndsChain (skippedBlanks inside s).rest := by
      rw [rest_of_next?_eq_none h]
      exact fun c hc => by cases hc
    exact yields_ok ⟨hend, blanks, hblanks, hs⟩
  · rename_i c hc
    have hrest := rest_of_next? hc
    have hended (h : c.value = ')' ∨ c.value = '\n') :
        JoinsAt inside s none (skippedBlanks inside s).rest := by
      refine ⟨fun d hd => ?_, blanks, hblanks, hs⟩
      rw [hrest] at hd
      cases hd
      exact h
    split
    · rename_i j hj
      rw [hrest, sign_of_joiner? hj] at hs
      exact yields_ok (joinsAt_of_sign inside hany hs)
    · split
      · rename_i hclose
        exact yields_ok (hended (Or.inl (eq_of_beq hclose)))
      · split
        · rename_i hline
          have hended := hended (Or.inr (eq_of_beq hline))
          split
          · exact yields_ok hended
          · rename_i d hd
            split
            · rename_i j hj
              -- The line feed and the blanks behind it stand before the joiner.
              obtain ⟨more, hmore, hskip⟩ := exists_skipAny c.rest
              have hnext : skipAny c.rest = j.sign :: d.rest := by
                rw [← sign_of_joiner? hj]
                exact rest_of_next? hd
              have hbefore : MadeOf isAnyBlank (blanks ++ c.value :: more) :=
                hany.append (List.forall_mem_cons.2 ⟨by rw [eq_of_beq hline]; rfl, hmore⟩)
              refine yields_ok (joinsAt_of_sign inside hbefore ?_)
              calc
                s = blanks ++ c.value :: c.rest := by rw [← hrest]; exact hs
                _ = blanks ++ c.value :: (more ++ j.sign :: d.rest) := by rw [← hnext, ← hskip]
                _ = blanks ++ c.value :: more ++ j.sign :: d.rest := by simp
            · exact yields_ok hended
        · split
          · exact yields_error _
          · split
            · exact yields_error _
            · exact yields_error _

theorem isAnyBlank_sign (j : Joiner) : isAnyBlank j.sign = false := by cases j <;> rfl

theorem readJoiner?_sign_behind {inside : Bool} {s t : List Char} {j : Joiner}
    (hstart : (skippedBlanks inside s).rest = j.sign :: t) :
    Reads (readJoiner? inside s) (some j) (skipAny t) := by
  obtain ⟨n, hn, hvalue, hleft⟩ := next?_of_rest_cons hstart
  rw [readJoiner?]
  simp only [hn, hvalue, joiner?_sign]
  exact ⟨_, rfl, rfl, congrArg skipAny hleft⟩

theorem readJoiner?_line {inside : Bool} {s t u : List Char} {j : Joiner}
    (hstart : (skippedBlanks inside s).rest = '\n' :: t) (hnext : skipAny t = j.sign :: u) :
    Reads (readJoiner? inside s) (some j) (skipAny u) := by
  obtain ⟨n, hn, hvalue, hleft⟩ := next?_of_rest_cons hstart
  have hbehind : (n.andThen (skippedAny n.rest)).rest = j.sign :: u := by
    change skipAny n.rest = _
    rw [hleft, hnext]
  obtain ⟨d, hd, hdvalue, hdleft⟩ := next?_of_rest_cons hbehind
  rw [readJoiner?]
  simp only [hn, hvalue, hd, hdvalue, joiner?_sign]
  exact ⟨_, rfl, rfl, congrArg skipAny hdleft⟩

/-- A joiner is read behind any blanks, and with the blanks behind it. -/
theorem readJoiner?_joined (inside : Bool) (j : Joiner) {before after rest : List Char}
    (hbefore : MadeOf isAnyBlank before) (hafter : MadeOf isAnyBlank after)
    (hrest : Stops isAnyBlank rest) :
    Reads (readJoiner? inside (before ++ j.sign :: (after ++ rest))) (some j) rest := by
  have hskip : skipAny (after ++ rest) = rest := skipAny_append hafter hrest
  cases inside with
  | true =>
      have hstart : (skippedBlanks true (before ++ j.sign :: (after ++ rest))).rest =
          j.sign :: (after ++ rest) := skipAny_append hbefore (stops_cons (isAnyBlank_sign j))
      have h := readJoiner?_sign_behind hstart
      rwa [hskip] at h
  | false =>
      have hinline : isInlineBlank j.sign = false := by cases j <;> rfl
      have hstart : (skippedBlanks false (before ++ j.sign :: (after ++ rest))).rest =
          before.dropWhile isInlineBlank ++ j.sign :: (after ++ rest) :=
        dropWhile_append_cons hinline _ _
      -- What is left of the blanks begins with a line feed, if anything is.
      cases hleft : before.dropWhile isInlineBlank with
      | nil =>
          rw [hleft] at hstart
          have h := readJoiner?_sign_behind hstart
          rwa [hskip] at h
      | cons c more =>
          have hstops := stops_dropWhile isInlineBlank before
          have hblank : MadeOf isAnyBlank (c :: more) := fun d hd =>
            hbefore d ((List.dropWhile_sublist _).subset (hleft ▸ hd))
          rw [hleft] at hstart hstops
          have hline : c = '\n' := by
            have hc := hblank c List.mem_cons_self
            rw [isAnyBlank, hstops c rfl, Bool.false_or] at hc
            exact eq_of_beq hc
          have hnext : skipAny (more ++ j.sign :: (after ++ rest)) = j.sign :: (after ++ rest) :=
            skipAny_append (fun d hd => hblank d (List.mem_cons_of_mem _ hd))
              (stops_cons (isAnyBlank_sign j))
          rw [hline] at hstart
          have h := readJoiner?_line hstart hnext
          rwa [hskip] at h

/-- Where a chain may end it does, if no joiner is behind the line feeds. -/
theorem readJoiner?_ended {inside : Bool} {s rest : List Char}
    (hstart : (skippedBlanks inside s).rest = rest) (hend : EndsChain rest)
    (hnext : Stops isJoiner (skipAny rest)) : Reads (readJoiner? inside s) none rest := by
  rw [readJoiner?]
  cases rest with
  | nil =>
      simp only [next?_of_rest_nil hstart]
      exact ⟨_, rfl, rfl, hstart⟩
  | cons c rest =>
      obtain ⟨n, hn, hvalue, hleft⟩ := next?_of_rest_cons hstart
      rcases hend c rfl with rfl | rfl
      · simp only [hn, hvalue]
        exact ⟨_, rfl, rfl, hstart⟩
      · have hbehind : (n.andThen (skippedAny n.rest)).rest = skipAny rest := by
          change skipAny n.rest = _
          rw [hleft]
        have hskip : skipAny ('\n' :: rest) = skipAny rest := rfl
        rw [hskip] at hnext
        cases hrest : skipAny rest with
        | nil =>
            rw [hrest] at hbehind
            simp only [hn, hvalue, next?_of_rest_nil hbehind]
            exact ⟨_, rfl, rfl, hstart⟩
        | cons d more =>
            rw [hrest] at hbehind hnext
            obtain ⟨e, he, hevalue, -⟩ := next?_of_rest_cons hbehind
            have hjoiner : joiner? d = none :=
              Option.not_isSome_iff_eq_none.1 (Bool.eq_false_iff.1 (hnext d rfl))
            simp only [hn, hvalue, he, hevalue, hjoiner]
            exact ⟨_, rfl, rfl, hstart⟩

/-! ### Chains -/

section Chains

variable {inside : Bool} {operand : (s : List Char) → Except Failure (Taking Clause s)}
  {Operand : Clause → List Char → Prop}

theorem readChain_begins
    (hoperand : ∀ s, Yields (operand s) fun t =>
      BeginsBehind (isBlankIn inside) Operand s t.value t.rest) (s : List Char) :
    Yields (readChain inside operand s) fun t => EndsChain t.rest ∧
      ∃ blanks text after, MadeOf (isBlankIn inside) blanks ∧ MadeOf (isBlankIn inside) after ∧
        s = blanks ++ (text ++ (after ++ t.rest)) ∧ ChainText Operand t.value text := by
  fun_induction readChain inside operand s with
  | case1 => exact yields_error _
  | case2 => exact yields_error _
  | case3 s c hc _ j hj _ hnone =>
      obtain ⟨blanks, text, hblanks, hs, htext⟩ := hoperand s c hc
      have hjoins : JoinsAt inside c.rest j.value j.rest := readJoiner?_joinsAt inside c.rest j hj
      rw [hnone] at hjoins
      obtain ⟨hend, after, hafter, hrest⟩ := hjoins
      have hs : s = blanks ++ (text ++ (after ++ j.rest)) :=
        hs.trans (congrArg (fun rest => blanks ++ (text ++ rest)) hrest)
      exact yields_ok ⟨hend, blanks, text, after, hblanks, hafter, hs, .one htext⟩
  | case4 => exact yields_error _
  | case5 s c hc _ j hj _ joiner hsome more hmore ih =>
      obtain ⟨blanks, text, hblanks, hs, htext⟩ := hoperand s c hc
      have hjoins : JoinsAt inside c.rest j.value j.rest := readJoiner?_joinsAt inside c.rest j hj
      rw [hsome] at hjoins
      obtain ⟨before, after, hbefore, hafter, hrest⟩ := hjoins
      obtain ⟨hend, lead, members, last, hlead, hlast, hj, hmembers⟩ := ih more hmore
      have hafter : MadeOf isAnyBlank (after ++ lead) :=
        hafter.append (hlead.mono fun _ => isAnyBlank_of_isBlankIn)
      have hs : s = blanks ++ ((text ++ (before ++ joiner.sign :: (after ++ lead ++ members))) ++
          (last ++ more.rest)) := calc
        s = blanks ++ (text ++ c.rest) := hs
        _ = blanks ++ (text ++ (before ++ joiner.sign :: (after ++ j.rest))) :=
          congrArg (fun rest => blanks ++ (text ++ rest)) hrest
        _ = blanks ++ (text ++ (before ++ joiner.sign ::
              (after ++ (lead ++ (members ++ (last ++ more.rest)))))) :=
          congrArg (fun rest => blanks ++ (text ++ (before ++ joiner.sign :: (after ++ rest)))) hj
        _ = _ := by simp
      exact yields_ok ⟨hend, blanks, _, last, hblanks, hlast, hs,
        .more htext hbefore hafter hmembers⟩

/-- Whether the texts of a grammar begin like an operand. -/
def BeginsOperand (Operand : Clause → List Char → Prop) : Prop :=
  ∀ {c text}, Operand c text → ∃ d tail, text = d :: tail ∧ beginsOperand d = true

theorem ChainText.begins (hbegins : BeginsOperand Operand) {members : List Member}
    {text : List Char} (h : ChainText Operand members text) :
    ∃ d tail, text = d :: tail ∧ beginsOperand d = true := by
  cases h with
  | one h => exact hbegins h
  | more h =>
      obtain ⟨d, tail, rfl, hd⟩ := hbegins h
      exact ⟨d, _, rfl, hd⟩

theorem ChainText.stops (hbegins : BeginsOperand Operand) {members : List Member}
    {text : List Char} (h : ChainText Operand members text) {p : Char → Bool}
    (hp : p '!' = false ∧ p '#' = false ∧ p '(' = false) (rest : List Char) :
    Stops p (text ++ rest) := by
  obtain ⟨d, tail, rfl, hd⟩ := h.begins hbegins
  exact stops_of_beginsOperand hp hd _

theorem stops_continuesSpell {blanks s : List Char} (hblanks : MadeOf isAnyBlank blanks)
    (hs : Stops continuesSpell s) : Stops continuesSpell (blanks ++ s) :=
  hblanks.stops (fun c hc => by rcases isAnyBlank_eq hc with rfl | rfl | rfl | rfl <;> rfl) hs

/-- Whether a reader takes an operand by the grammar, with the blanks before it, where nothing goes
on with it. -/
def TakesOperands (inside : Bool) (operand : (s : List Char) → Except Failure (Taking Clause s))
    (Operand : Clause → List Char → Prop) : Prop :=
  ∀ {c text blanks rest}, Operand c text → MadeOf (isBlankIn inside) blanks →
    Stops continuesSpell rest → Takes (operand (blanks ++ (text ++ rest))) c rest

/-- **A chain is read by the grammar**, if its operands are. -/
theorem readChain_chainText (hbegins : BeginsOperand Operand)
    (hoperand : TakesOperands inside operand Operand)
    {tail rest : List Char} (htail : Reads (readJoiner? inside tail) none rest)
    (hstops : Stops continuesSpell tail) {members : List Member} {text : List Char}
    (h : ChainText Operand members text) : ∀ {blanks}, MadeOf (isBlankIn inside) blanks →
      Takes (readChain inside operand (blanks ++ (text ++ tail))) members rest := by
  induction h with
  | one h =>
      intro blanks hblanks
      obtain ⟨c, hc, hvalue, hleft⟩ := hoperand h hblanks hstops
      rw [← hleft] at htail
      obtain ⟨j, hj, hjvalue, hjleft⟩ := htail
      rw [readChain]
      simp only [hc, hj, hjvalue]
      exact ⟨_, rfl, by simp [Taking.andThen, Reading.map, hvalue], hjleft⟩
  | @more c joiner members s before after t h hbefore hafter hmore ih =>
      intro blanks hblanks
      have htext : s ++ (before ++ joiner.sign :: (after ++ t)) ++ tail =
          s ++ (before ++ joiner.sign :: (after ++ (t ++ tail))) := by simp
      have hsign : Stops continuesSpell (joiner.sign :: (after ++ (t ++ tail))) :=
        stops_cons (by cases joiner <;> rfl)
      obtain ⟨c', hc, hvalue, hleft⟩ := hoperand h hblanks (stops_continuesSpell hbefore hsign)
      have hj := readJoiner?_joined inside joiner hbefore hafter
        (hmore.stops hbegins (by decide) tail)
      rw [← hleft] at hj
      obtain ⟨j, hj, hjvalue, hjleft⟩ := hj
      have ih := ih (madeOf_nil _)
      rw [List.nil_append, ← hjleft] at ih
      obtain ⟨u, hu, huvalue, huleft⟩ := ih
      rw [htext, readChain]
      simp only [hc, hj, hjvalue, hu]
      refine ⟨_, rfl, ?_, huleft⟩
      simp [Taking.andThen, Reading.andThen, Reading.map, Taking.toReading, hvalue, huvalue]

theorem readGroup_begins
    (hoperand : ∀ s, Yields (operand s) fun t =>
      BeginsBehind (isBlankIn true) Operand s t.value t.rest) (whole s : List Char) :
    Yields (readGroup operand whole s) fun r =>
      BeginsWith (GroupText Operand) ('(' :: s) r.value r.rest := by
  rw [readGroup]
  split
  · exact yields_error _
  · split
    · exact yields_error _
    · rename_i members hmembers
      split
      · exact yields_error _
      · rename_i close hclose
        obtain ⟨before, hbefore, hs⟩ := exists_skipAny s
        obtain ⟨-, blanks, text, after, hblanks, hafter, hchain, htext⟩ :=
          readChain_begins hoperand _ members hmembers
        have hend : members.rest = ')' :: close.rest := rest_of_sign? hclose
        have hs : '(' :: s =
            '(' :: (before ++ blanks ++ (text ++ (after ++ [')']))) ++ close.rest := calc
          '(' :: s = '(' :: (before ++ skipAny s) := congrArg (List.cons '(') hs
          _ = '(' :: (before ++ (blanks ++ (text ++ (after ++ ')' :: close.rest)))) := by
            rw [← hend]
            exact congrArg (fun rest => '(' :: (before ++ rest)) hchain
          _ = _ := by simp
        exact yields_ok ⟨_, hs, .mk (hbefore.append hblanks) htext hafter⟩

/-- **A group is read by the grammar**, if its operands are. -/
theorem readGroup_groupText (hbegins : BeginsOperand Operand)
    (hoperand : TakesOperands true operand Operand)
    {g : Group} {s : List Char} (h : GroupText Operand g ('(' :: s)) (whole rest : List Char) :
    Reads (readGroup operand whole (s ++ rest)) g rest := by
  generalize hparen : '(' :: s = text at h
  cases h with
  | @mk members before text after hbefore h hafter =>
      cases hparen
      have htext : before ++ (text ++ (after ++ [')'])) ++ rest =
          before ++ (text ++ (after ++ ')' :: rest)) := by simp
      have hstart : (skippedAny (before ++ (text ++ (after ++ ')' :: rest)))).rest =
          text ++ (after ++ ')' :: rest) :=
        skipAny_append hbefore (h.stops hbegins (by decide) _)
      have hopen : ((skippedAny (before ++ (text ++ (after ++ ')' :: rest)))).rest.head? ==
          some ')') = false := by
        obtain ⟨d, tail, rfl, hd⟩ := h.begins hbegins
        rw [hstart, List.cons_append, List.head?_cons]
        exact beq_eq_false_iff_ne.2 fun heq => by cases heq; cases hd
      have hclosed : Reads (readJoiner? true (after ++ ')' :: rest)) none (')' :: rest) :=
        readJoiner?_ended (skippedBlanks_append hafter (stops_cons rfl))
          (fun c hc => Or.inl (Option.some.inj hc).symm) (stops_cons rfl)
      have hchain := readChain_chainText hbegins hoperand hclosed
        (stops_continuesSpell hafter (stops_cons rfl)) h (madeOf_nil _)
      rw [List.nil_append, ← hstart] at hchain
      obtain ⟨t, ht, hvalue, hleft⟩ := hchain
      have hclose : t.toReading.rest = ')' :: rest := hleft
      obtain ⟨n, hn, hnleft⟩ := sign?_of_rest_cons hclose
      rw [htext, readGroup]
      simp only [hopen, ht, hn]
      exact ⟨_, rfl, by simp [Reading.andThen, Reading.map, hvalue], hnleft⟩

end Chains

/-! ### Operands -/

section Operands

variable {inside : Bool} {group : (whole s : List Char) → Except Failure (Reading Group s)}
  {InParentheses : Group → List Char → Prop}

theorem readPlainOperand_begins
    (hgroup : ∀ whole s, Yields (group whole s) fun r =>
      BeginsWith InParentheses ('(' :: s) r.value r.rest) (s : List Char) :
    Yields (readPlainOperand inside group s) fun t =>
      BeginsWith (PlainOperandText InParentheses) s t.value t.rest := by
  rw [readPlainOperand.eq_def]
  split
  · exact yields_error _
  · rename_i c rest
    split
    · rename_i hc
      refine yields_map (hgroup _ _) fun g hg => ?_
      obtain ⟨text, hs, hg⟩ := hg
      rw [eq_of_beq hc]
      exact ⟨text, hs, .group hg⟩
    · split
      · rename_i hc
        split
        · exact yields_error _
        · refine yields_map (readSpell_begins _ _) fun s hs => ?_
          obtain ⟨text, hs, hspell⟩ := hs
          rw [eq_of_beq hc]
          exact ⟨text, hs, .spell hspell⟩
      · split
        · exact yields_error _
        · exact yields_error _

theorem readOperand_begins
    (hgroup : ∀ whole s, Yields (group whole s) fun r =>
      BeginsWith InParentheses ('(' :: s) r.value r.rest) (s : List Char) :
    Yields (readOperand inside group s) fun t =>
      BeginsBehind (isBlankIn inside) (OperandText inside InParentheses) s t.value t.rest := by
  obtain ⟨blanks, hblanks, hs⟩ := exists_skippedBlanks inside s
  rw [readOperand]
  cases hmark : (skippedBlanks inside s).sign? '!' with
  | none =>
      refine yields_map (readPlainOperand_begins hgroup _) fun c hc => ?_
      obtain ⟨text, htext, hc⟩ := hc
      exact ⟨blanks, text, hblanks, hs.trans (congrArg (blanks ++ ·) htext), .plain hc⟩
  | some m =>
      refine yields_map (readPlainOperand_begins hgroup _) fun c hc => ?_
      obtain ⟨text, htext, hc⟩ := hc
      obtain ⟨between, hbetween, hm⟩ := exists_skippedBlanks inside m.rest
      have hs : s = blanks ++ ('!' :: (between ++ text) ++ c.rest) := calc
        s = blanks ++ '!' :: m.rest := hs.trans (congrArg (blanks ++ ·) (rest_of_sign? hmark))
        _ = blanks ++ '!' :: (between ++ (text ++ c.rest)) := by
          exact congrArg (fun rest => blanks ++ '!' :: rest)
            (hm.trans (congrArg (between ++ ·) htext))
        _ = _ := by simp
      exact ⟨blanks, _, hblanks, hs, .negated hbetween hc⟩

/-- A spell is not taken for a replacement rule. -/
theorem direction?_spellText {spell : Spell} {s rest : List Char} (h : SpellText spell s)
    (hrest : Stops Char.isAlphanum rest) : direction? (s ++ rest) = none := by
  obtain ⟨hscope, hargument⟩ := h
  rename_i kind argument scope t u
  have hword := (readWord_spell kind hscope hargument hrest).1
  have hrep : (kind.word == "rep") = false :=
    beq_eq_false_iff_ne.2 (word_ne_word_direction kind .incoming)
  have houtrep : (kind.word == "outrep") = false :=
    beq_eq_false_iff_ne.2 (word_ne_word_direction kind .outgoing)
  rw [List.cons_append, direction?]
  simp only [hword, String.ofList_toList, hrep, houtrep]
  rfl

theorem SpellText.eq_cons {spell : Spell} {text : List Char} :
    SpellText spell text → ∃ s, text = '#' :: s
  | .mk _ _ => ⟨_, rfl⟩

theorem readOperand_unmarked {s rest : List Char} {c : Clause}
    (hmark : (skippedBlanks inside s).sign? '!' = none)
    (h : Takes (readPlainOperand inside group (skippedBlanks inside s).rest) c rest) :
    Takes (readOperand inside group s) c rest := by
  obtain ⟨t, ht, hvalue, hleft⟩ := h
  have hread : readOperand inside group s =
      (readPlainOperand inside group (skippedBlanks inside s).rest).map fun c =>
        (skippedBlanks inside s).andTake (c.map fun c => c.negateIf false) := by
    rw [readOperand, hmark]
    rfl
  rw [hread, ht]
  exact ⟨_, rfl, hvalue, hleft⟩

theorem readOperand_marked {s rest : List Char} {c : Clause} {m : Reading Unit s}
    (hmark : (skippedBlanks inside s).sign? '!' = some m)
    (h : Takes (readPlainOperand inside group (skippedBlanks inside m.rest).rest) c rest) :
    Takes (readOperand inside group s) c.negate rest := by
  obtain ⟨t, ht, hvalue, hleft⟩ := h
  have hread : readOperand inside group s =
      (readPlainOperand inside group (skippedBlanks inside m.rest).rest).map fun c =>
        (m.andThen (skippedBlanks inside m.rest)).andTake (c.map fun c => c.negateIf true) := by
    rw [readOperand, hmark]
    rfl
  rw [hread, ht]
  exact ⟨_, rfl, congrArg Clause.negate hvalue, hleft⟩

-- Groups begin with a parenthesis, so that a text shows where it goes on as one.
variable (hparen : ∀ {g text}, InParentheses g text → ∃ s, text = '(' :: s)
include hparen

theorem PlainOperandText.begins {c : Clause} {text : List Char}
    (h : PlainOperandText InParentheses c text) :
    ∃ d tail, text = d :: tail ∧ (d = '#' ∨ d = '(') := by
  cases h with
  | spell h =>
      obtain ⟨s, rfl⟩ := h.eq_cons
      exact ⟨'#', s, rfl, Or.inl rfl⟩
  | group h =>
      obtain ⟨s, rfl⟩ := hparen h
      exact ⟨'(', s, rfl, Or.inr rfl⟩

theorem PlainOperandText.stops {c : Clause} {text : List Char}
    (h : PlainOperandText InParentheses c text) {p : Char → Bool}
    (hp : p '#' = false ∧ p '(' = false) (rest : List Char) : Stops p (text ++ rest) := by
  obtain ⟨d, tail, rfl, rfl | rfl⟩ := h.begins hparen
  · exact stops_cons hp.1
  · exact stops_cons hp.2

theorem beginsOperand_operandText : BeginsOperand (OperandText inside InParentheses) := by
  intro c text h
  cases h with
  | plain h =>
      obtain ⟨d, tail, rfl, rfl | rfl⟩ := h.begins hparen
      · exact ⟨'#', tail, rfl, rfl⟩
      · exact ⟨'(', tail, rfl, rfl⟩
  | negated => exact ⟨'!', _, rfl, rfl⟩

variable (hgroup : ∀ {g s}, InParentheses g ('(' :: s) → ∀ whole rest,
  Reads (group whole (s ++ rest)) g rest)
include hgroup

theorem readPlainOperand_plainOperandText {c : Clause} {text rest : List Char}
    (h : PlainOperandText InParentheses c text) (hrest : Stops continuesSpell rest) :
    Takes (readPlainOperand inside group (text ++ rest)) c rest := by
  cases h with
  | @spell spell text h =>
      have hdirection := direction?_spellText h (stops_alphanum hrest)
      obtain ⟨s, rfl⟩ := h.eq_cons
      obtain ⟨r, hr, hvalue, hleft⟩ := readSpell_spellText h ('#' :: s ++ rest) hrest
      rw [List.cons_append] at hdirection hr ⊢
      rw [readPlainOperand]
      simp only [hdirection, hr]
      exact ⟨_, rfl, congrArg Clause.spell hvalue, hleft⟩
  | @group g text h =>
      obtain ⟨s, rfl⟩ := hparen h
      exact readPlainOperand_group fun whole => hgroup h whole rest

/-- **An operand is read by the grammar**, if groups are. -/
theorem readOperand_operandText :
    TakesOperands inside (readOperand inside group) (OperandText inside InParentheses) := by
  intro c text blanks rest h hblanks hrest
  cases h with
  | plain h =>
      have hstops : Stops isAnyBlank (text ++ rest) := h.stops hparen (by decide) rest
      have hstart : (skippedBlanks inside (blanks ++ (text ++ rest))).rest = text ++ rest :=
        skippedBlanks_append hblanks (stops_isBlankIn hstops inside)
      refine readOperand_unmarked (sign?_eq_none ?_) ?_ <;> rw [hstart]
      · exact h.stops hparen (by decide) rest
      · exact readPlainOperand_plainOperandText hparen hgroup h hrest
  | @negated c between text hbetween h =>
      have hstops : Stops isAnyBlank (text ++ rest) := h.stops hparen (by decide) rest
      have hstart : (skippedBlanks inside (blanks ++ ('!' :: (between ++ text) ++ rest))).rest =
          '!' :: (between ++ (text ++ rest)) := by
        rw [← List.append_assoc between]
        exact skippedBlanks_append hblanks (stops_isBlankIn (stops_cons rfl) inside)
      obtain ⟨m, hm, hmrest⟩ := sign?_of_rest_cons hstart
      refine readOperand_marked hm ?_
      rw [hmrest, skippedBlanks_append hbetween (stops_isBlankIn hstops inside)]
      exact readPlainOperand_plainOperandText hparen hgroup h hrest

end Operands

/-! ### Levels -/

theorem GroupTextWithin.eq_cons : ∀ {levels : Nat} {g : Group} {text : List Char},
    GroupTextWithin levels g text → ∃ s, text = '(' :: s
  | _ + 1, _, _, .mk _ _ _ => ⟨_, rfl⟩

theorem readGroupWithin_begins (limit : Nat) : ∀ (levels : Nat) (whole s : List Char),
    Yields (readGroupWithin limit levels whole s) fun r =>
      BeginsWith (GroupTextWithin levels) ('(' :: s) r.value r.rest
  | 0, _, _ => yields_error _
  | levels + 1, _, _ =>
      readGroup_begins (readOperand_begins (readGroupWithin_begins limit levels)) _ _

/-- **A group is read by the grammar**, as deep as it may be nested. -/
theorem readGroupWithin_groupText (limit : Nat) : ∀ {levels : Nat} {g : Group} {s : List Char},
    GroupTextWithin levels g ('(' :: s) → ∀ whole rest,
      Reads (readGroupWithin limit levels whole (s ++ rest)) g rest
  | _ + 1, _, _, h, whole, rest =>
      readGroup_groupText (beginsOperand_operandText GroupTextWithin.eq_cons)
        (readOperand_operandText GroupTextWithin.eq_cons (readGroupWithin_groupText limit)) h whole
        rest

end PostFilter.Document
