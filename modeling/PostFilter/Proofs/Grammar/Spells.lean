import PostFilter.Proofs.Accepted.Documents
import PostFilter.Proofs.Grammar.Arguments

/-!
# Documents — spells are read by the grammar

What a reader hands back is written at the front of the text, and what is behind that is what the
reader leaves (`BeginsWith`). Conversely, a reader that is given a way to write a value takes just
that (`Reads`), if what stands behind does not go on with the value. Each reader has a lemma for
either direction, up to `readSpell_begins` and `readSpell_spellText`.
-/

namespace PostFilter.Document

open Text

/-- Whether a text begins with a way to write a value, and `rest` is behind that. -/
def BeginsWith {α : Type} (Item : α → List Char → Prop) (s : List Char) (value : α)
    (rest : List Char) : Prop :=
  ∃ text, s = text ++ rest ∧ Item value text

/-! ### Blanks -/

/-- What is skipped is blank. -/
theorem exists_skipInline (s : List Char) :
    ∃ blanks, MadeOf isInlineBlank blanks ∧ s = blanks ++ skipInline s :=
  ⟨_, madeOf_takeWhile _ s, List.takeWhile_append_dropWhile.symm⟩

theorem skipInline_append {blanks s : List Char} (hblanks : MadeOf isInlineBlank blanks)
    (hs : Stops isInlineBlank s) : skipInline (blanks ++ s) = s :=
  dropWhile_append_of_stops hs hblanks

theorem isInlineBlank_eq {c : Char} (h : isInlineBlank c = true) :
    c = ' ' ∨ c = '\t' ∨ c = '\r' := by
  simpa [isInlineBlank, or_assoc] using h

/-! ### Scanners -/

theorem eq_of_readUpTo? {c : Char} {s : List Char} {r : Reading (List Char) s}
    (h : readUpTo? c s = some r) : s = r.value ++ c :: r.rest := by
  rw [readUpTo?] at h
  split at h
  · cases h
  · rename_i a b hsplit
    cases h
    obtain ⟨d, hd, -, hs⟩ := splitFirst?_eq_some_iff.1 hsplit
    rwa [eq_of_beq hd] at hs

/-- Escaped text is scanned up to the first parenthesis that is not escaped. -/
theorem scanText_escapedText {text s : List Char} (h : EscapedText text s) (rest : List Char) :
    scanText (s ++ ')' :: rest) = some (text, rest) := by
  induction h with
  | nil =>
      rw [List.nil_append, scanText.eq_def]
      rfl
  | plain hparen hbackslash _ ih =>
      rw [List.cons_append, scanText.eq_def]
      simp only [beq_iff_eq, hparen, hbackslash, if_false, ih, Option.map_some]
  | escaped hc _ ih =>
      rw [List.cons_append, List.cons_append, scanText.eq_def]
      simp [isEscapable] at hc
      simp [hc, ih]
  | @backslash c text s hc _ ih =>
      rw [List.cons_append, List.cons_append, scanText.eq_def]
      simp [isEscapable] at hc
      rw [List.cons_append] at ih
      simp [hc, ih]

theorem escapedText_of_scanText {s text rest : List Char} (h : scanText s = some (text, rest)) :
    ∃ raw, EscapedText text raw ∧ s = raw ++ ')' :: rest := by
  fun_induction scanText s generalizing text rest with
  | case1 => cases h
  | case2 c s hc =>
      cases h
      exact ⟨[], .nil, by rw [eq_of_beq hc]; rfl⟩
  | case3 => cases h
  | case4 c hparen hc d more hd ih =>
      obtain ⟨⟨text', rest'⟩, hmore, heq⟩ := Option.map_eq_some_iff.1 h
      cases heq
      obtain ⟨raw, hraw, rfl⟩ := ih hmore
      rw [eq_of_beq hc]
      exact ⟨_, .escaped hd hraw, rfl⟩
  | case5 c hparen hc d more hd ih =>
      obtain ⟨⟨text', rest'⟩, hmore, heq⟩ := Option.map_eq_some_iff.1 h
      cases heq
      obtain ⟨raw, hraw, hs⟩ := ih hmore
      -- The next character is read again, and it does not end the text.
      cases raw with
      | nil => cases hs; exact absurd rfl hd
      | cons d' raw =>
          cases hs
          rw [eq_of_beq hc]
          exact ⟨_, .backslash (Bool.not_eq_true _ ▸ hd) hraw, rfl⟩
  | case6 c rest' hparen hc ih =>
      obtain ⟨⟨text', rest'⟩, hmore, heq⟩ := Option.map_eq_some_iff.1 h
      cases heq
      obtain ⟨raw, hraw, rfl⟩ := ih hmore
      exact ⟨_, .plain (fun h => hparen (beq_iff_eq.2 h)) (fun h => hc (beq_iff_eq.2 h)) hraw, rfl⟩

theorem scanPattern_sourceText {inClass : Bool} {s : List Char} (h : SourceText inClass s)
    (rest : List Char) : scanPattern inClass (s ++ '/' :: rest) = some (s, rest) := by
  induction h with
  | nil =>
      rw [List.nil_append, scanPattern.eq_def]
      rfl
  | escaped c _ ih =>
      rw [List.cons_append, List.cons_append, scanPattern.eq_def]
      simp [ih]
  | opened _ ih | closed _ ih | slash _ ih =>
      rw [List.cons_append, scanPattern.eq_def]
      simp [ih]
  | plain hc _ ih =>
      rw [List.cons_append, scanPattern.eq_def]
      simp only [List.mem_cons, List.not_mem_nil, or_false, not_or] at hc
      simp [hc, ih]

theorem sourceText_of_scanPattern {inClass : Bool} {s source rest : List Char}
    (h : scanPattern inClass s = some (source, rest)) :
    SourceText inClass source ∧ s = source ++ '/' :: rest := by
  fun_induction scanPattern inClass s generalizing source rest with
  | case1 => cases h
  | case2 => cases h
  | case3 inClass c hc d more ih =>
      obtain ⟨⟨source', rest'⟩, hmore, heq⟩ := Option.map_eq_some_iff.1 h
      cases heq
      obtain ⟨hsource, rfl⟩ := ih hmore
      rw [eq_of_beq hc]
      exact ⟨.escaped d hsource, rfl⟩
  | case4 inClass c rest hc hslash =>
      cases h
      rw [Bool.and_eq_true, Bool.not_eq_true', beq_iff_eq] at hslash
      rw [hslash.1, hslash.2]
      exact ⟨.nil, rfl⟩
  | case5 inClass c rest hc hslash =>
      rename_i next ih
      obtain ⟨⟨source', rest'⟩, hmore, heq⟩ := Option.map_eq_some_iff.1 h
      cases heq
      obtain ⟨hsource, rfl⟩ := ih hmore
      refine ⟨?_, rfl⟩
      by_cases hopen : c = '['
      · subst hopen
        exact .opened hsource
      · by_cases hclose : c = ']'
        · subst hclose
          exact .closed hsource
        · have hnext : next = inClass := by simp only [next, beq_iff_eq, hopen, hclose, if_false]
          rw [hnext] at hsource
          by_cases hend : c = '/'
          · subst hend
            rw [Bool.and_eq_true, Bool.not_eq_true', not_and, Bool.not_eq_false] at hslash
            rw [hslash rfl] at hsource ⊢
            exact .slash hsource
          · refine .plain ?_ hsource
            simp only [List.mem_cons, List.not_mem_nil, or_false, not_or]
            exact ⟨fun h => hc (beq_iff_eq.2 h), hopen, hclose, hend⟩

/-! ### Patterns -/

theorem readPattern_patternText {p : Pattern} {text rest : List Char} (h : PatternText p text)
    (hrest : Stops Char.isAlpha rest) : Reads (readPattern (text ++ rest)) p rest := by
  obtain ⟨hne, hsource, hflags, hp⟩ := h
  rename_i source flags
  have hscan := scanPattern_sourceText hsource (flags ++ rest)
  obtain ⟨r, hr, hvalue, hleft⟩ : ∃ r, readSource? (source ++ '/' :: (flags ++ rest)) = some r ∧
      r.value = source ∧ r.rest = flags ++ rest := by
    rw [readSource?]
    split
    · rename_i hnone
      rw [hnone] at hscan
      cases hscan
    · rename_i hsome
      rw [hsome] at hscan
      cases hscan
      exact ⟨_, rfl, rfl, rfl⟩
  have hletters : (Reading.run Char.isAlpha r.rest).value = flags := by
    rw [hleft]
    exact takeWhile_append_of_stops hrest hflags
  have hend : (Reading.run Char.isAlpha r.rest).rest = rest := by
    rw [hleft]
    exact dropWhile_append_of_stops hrest hflags
  rw [List.cons_append, List.append_assoc, List.cons_append, readPattern, hr]
  simp only [hvalue, List.isEmpty_eq_false_iff.2 hne, Reading.andThen, hletters, hp]
  exact ⟨_, rfl, rfl, hend⟩

theorem readPattern_begins (s : List Char) :
    Yields (readPattern s) fun r => BeginsWith PatternText s r.value r.rest := by
  rw [readPattern.eq_def]
  split
  · rename_i body
    split
    · exact yields_error _
    · rename_i source hsource
      split
      · exact yields_error _
      · rename_i hne
        dsimp only
        split
        · exact yields_error _
        · rename_i p hp
          obtain ⟨hsource, hbody⟩ := sourceText_of_scanPattern (scanPattern_of_readSource? hsource)
          have htext : '/' :: body = '/' :: (source.value ++ '/' ::
              source.rest.takeWhile Char.isAlpha) ++ source.rest.dropWhile Char.isAlpha :=
            (congrArg (List.cons '/') hbody).trans (by simp)
          exact yields_ok ⟨_, htext, .mk (List.isEmpty_eq_false_iff.1 (Bool.not_eq_true _ ▸ hne))
            hsource (madeOf_takeWhile _ source.rest) hp⟩
  · exact yields_error _

/-! ### Scopes -/

theorem BoardText.spaced {board : String} {s : List Char} : BoardText board s → Spaced isBoardChar s
  | .mk _ h hs => hs.spaced h

theorem BoardText.trimList {board : String} {s : List Char} :
    BoardText board s → trimList s = board.toList
  | .mk hne h hs => hs.trimList (fun hnil => hne (String.toList_eq_nil_iff.1 hnil))
      fun c hc => isBlank_of_isBoardChar (h c hc)

/-- What passes the check on the name of a board is one, with the blanks around it. -/
theorem boardText_of_trimList {s : List Char}
    (h : ¬ ((trimList s).isEmpty || !(trimList s).all isBoardChar) = true) :
    BoardText (String.ofList (trimList s)) s := by
  rw [Bool.or_eq_true, not_or, Bool.not_eq_true, Bool.not_eq_true, Bool.not_eq_false'] at h
  refine .mk (ofList_ne_empty h.1) ?_ ?_ <;> rw [String.toList_ofList]
  · exact List.all_eq_true.1 h.2
  · exact around_trimList s

theorem BoardText.check {board : String} {s : List Char} (h : BoardText board s) :
    ¬ ((Text.trimList s).isEmpty || !(Text.trimList s).all isBoardChar) = true := by
  rw [h.trimList]
  obtain ⟨hne, hboard, -⟩ := h
  rw [List.isEmpty_eq_false_iff.2 fun hnil => hne (String.toList_eq_nil_iff.1 hnil),
    List.all_eq_true.2 hboard]
  decide

theorem readScope_begins (whole s : List Char) :
    Yields (readScope whole s) fun r => BeginsWith ScopeText ('[' :: s) r.value r.rest := by
  rw [readScope]
  split
  · exact yields_error _
  · rename_i body hbody
    have hs : '[' :: s = '[' :: (body.value ++ [']']) ++ body.rest :=
      (congrArg (List.cons '[') (eq_of_readUpTo? hbody)).trans (by simp)
    cases hsplit : splitFirst? (· == ',') body.value with
    | none =>
        simp only [Option.map_none, Option.getD_none]
        split
        · exact yields_error _
        · rename_i hboard
          exact yields_ok ⟨_, hs, .anywhere (boardText_of_trimList hboard)⟩
    | some parts =>
        obtain ⟨a, b⟩ := parts
        obtain ⟨c, hc, -, hparts⟩ := splitFirst?_eq_some_iff.1 hsplit
        rw [eq_of_beq hc] at hparts
        have hs : '[' :: s = '[' :: (a ++ ',' :: (b ++ [']'])) ++ body.rest := by
          rw [hs, hparts]
          simp
        simp only [Option.map_some, Option.getD_some]
        split
        · exact yields_error _
        · rename_i hboard
          split
          · rename_i h
            cases h
          · rename_i h
            have hdash : trimList b = ['-'] := Option.some.inj h
            exact yields_ok ⟨_, hs, .boardOnly (boardText_of_trimList hboard)
              (hdash ▸ around_trimList b)⟩
          · rename_i t _ h
            cases h
            split
            · rename_i n hn
              exact yields_ok ⟨_, hs, .thread (boardText_of_trimList hboard)
                (readNumber_trimList_iff.1 hn)⟩
            · exact yields_error _

/-- A scope with a comma is taken up to its bracket and split at the comma. -/
theorem readUpTo?_boardText {board : String} {s t : List Char} (h : BoardText board s)
    (ht : ∀ c ∈ t, (c == ']') = false) (rest : List Char) :
    ∃ r, readUpTo? ']' (s ++ ',' :: (t ++ [']']) ++ rest) = some r ∧
      splitFirst? (· == ',') r.value = some (s, t) ∧ r.rest = rest := by
  have htext : s ++ ',' :: (t ++ [']']) ++ rest = s ++ ',' :: t ++ ']' :: rest := by simp
  obtain ⟨r, hr, hvalue, hrest⟩ := readUpTo?_append
    (beq_append_cons (c := ',') (h.spaced.beq (d := ']') (by decide) rfl) rfl ht) rest
  rw [htext]
  refine ⟨r, hr, ?_, hrest⟩
  rw [hvalue]
  exact splitFirst?_append rfl (h.spaced.beq (by decide) rfl)

theorem readScope_scopeText {scope : Scope} {s : List Char} (h : ScopeText scope ('[' :: s))
    (whole rest : List Char) : Reads (readScope whole (s ++ rest)) scope rest := by
  generalize hwhole : '[' :: s = text at h
  cases h with
  | @anywhere board t hboard =>
      cases hwhole
      obtain ⟨body, hbody, hvalue, hleft⟩ :=
        readUpTo?_append (hboard.spaced.beq (d := ']') (by decide) rfl) rest
      rw [List.append_assoc, List.singleton_append, readScope, hbody]
      have hcomma := hboard.spaced.beq (d := ',') (by decide) rfl
      simp only [hvalue, splitFirst?_eq_none hcomma, Option.map_none, Option.getD_none]
      rw [if_neg hboard.check, hboard.trimList]
      exact ⟨_, rfl, by simp [Reading.map], hleft⟩
  | @boardOnly board b t hboard ht =>
      cases hwhole
      have htrim : trimList t = ['-'] :=
        ht.trimList (List.cons_ne_nil _ _) (List.forall_mem_singleton.2 rfl)
      have hdash : Spaced (· == '-') t := ht.spaced (List.forall_mem_singleton.2 rfl)
      obtain ⟨body, hbody, hsplit, hleft⟩ := readUpTo?_boardText hboard (hdash.beq rfl rfl) rest
      rw [readScope, hbody]
      simp only [hsplit, Option.map_some, Option.getD_some, htrim]
      rw [if_neg hboard.check, hboard.trimList]
      exact ⟨_, rfl, by simp [Reading.map], hleft⟩
  | @thread board n b t hboard ht =>
      cases hwhole
      have hread := readNumber_trimList_iff.2 ht
      obtain ⟨body, hbody, hsplit, hleft⟩ :=
        readUpTo?_boardText hboard (ht.spaced.beq rfl rfl) rest
      rw [readScope, hbody]
      simp only [hsplit, Option.map_some, Option.getD_some]
      rw [if_neg hboard.check, hboard.trimList]
      split
      · rename_i h
        cases h
      · rename_i h
        rw [Option.some.inj h] at hread
        cases hread
      · rename_i h
        cases h
        rw [hread]
        exact ⟨_, rfl, by simp [Reading.map], hleft⟩

theorem readScope?_begins (s : List Char) :
    Yields (readScope? s) fun r => BeginsWith (OptionalText ScopeText) s r.value r.rest := by
  rw [readScope?.eq_def]
  split
  · refine yields_map (readScope_begins _ _) fun r hr => ?_
    obtain ⟨text, htext, hscope⟩ := hr
    exact ⟨text, htext, .some hscope⟩
  · exact yields_ok ⟨[], rfl, .none⟩

theorem readScope?_scopeText {scope : Option Scope} {text rest : List Char}
    (h : OptionalText ScopeText scope text) (hrest : Stops (· == '[') rest) :
    Reads (readScope? (text ++ rest)) scope rest := by
  cases h with
  | none =>
      rw [List.nil_append, readScope?]
      · exact ⟨_, rfl, rfl, rfl⟩
      · rintro rest rfl
        cases hrest '[' rfl
  | @some scope text h =>
      obtain ⟨body, rfl⟩ : ∃ body, text = '[' :: body := by cases h <;> exact ⟨_, rfl⟩
      obtain ⟨r, hr, hvalue, hleft⟩ := readScope_scopeText h ('[' :: (body ++ rest)) rest
      rw [List.cons_append, readScope?, hr]
      exact ⟨_, rfl, congrArg some hvalue, hleft⟩

/-! ### Arguments -/

theorem eq_of_readClose {whole s : List Char} {r : Reading Unit s} (h : readClose whole s = .ok r) :
    s = ')' :: r.rest := by
  cases s with
  | nil => cases h
  | cons c s =>
      rw [readClose] at h
      split at h
      · rename_i hc
        cases h
        rw [eq_of_beq hc]
        rfl
      · cases h

theorem readText_escapedText {text s : List Char} (h : EscapedText text s)
    (whole rest : List Char) : Reads (readText whole (s ++ ')' :: rest)) text rest := by
  have hscan := scanText_escapedText h rest
  rw [readText]
  split
  · rename_i hnone
    rw [hnone] at hscan
    cases hscan
  · rename_i hsome
    rw [hsome] at hscan
    cases hscan
    exact ⟨_, rfl, rfl, rfl⟩

theorem escapedText_of_readText {whole s : List Char} {r : Reading (List Char) s}
    (h : readText whole s = .ok r) : ∃ raw, EscapedText r.value raw ∧ s = raw ++ ')' :: r.rest := by
  rw [readText] at h
  split at h
  · cases h
  · rename_i hscan
    cases h
    exact escapedText_of_scanText hscan

/-- The blanks around a pattern end before its slash and behind its flags. -/
theorem stops_patternText {p : Pattern} {core : List Char} (h : PatternText p core)
    (rest : List Char) : Stops isInlineBlank (core ++ rest) := by
  cases h with
  | mk => exact stops_cons rfl

theorem isAlpha_of_isInlineBlank {c : Char} (h : isInlineBlank c = true) : c.isAlpha = false := by
  rcases isInlineBlank_eq h with rfl | rfl | rfl <;> rfl

/-- A pattern is taken with the blanks around it. -/
theorem readPattern_around {p : Pattern} {core text rest : List Char} (h : PatternText p core)
    (hs : Around isInlineBlank core text) (hrest : Stops isInlineBlank rest)
    (hflags : Stops Char.isAlpha rest) :
    ∃ r, readPattern (skippedInline (text ++ rest)).rest = .ok r ∧ r.value = p ∧
      (skippedInline r.rest).rest = rest := by
  cases hs with
  | @mk before after hbefore hafter =>
      have hstart : (skippedInline (before ++ (core ++ after) ++ rest)).rest =
          core ++ (after ++ rest) := by
        rw [List.append_assoc, List.append_assoc]
        exact skipInline_append hbefore (stops_patternText h _)
      obtain ⟨r, hr, hvalue, hleft⟩ :=
        readPattern_patternText h (hafter.stops (fun _ => isAlpha_of_isInlineBlank) hflags)
      rw [hstart]
      refine ⟨r, hr, hvalue, ?_⟩
      change skipInline r.rest = rest
      rw [hleft]
      exact skipInline_append hafter hrest

theorem around_of_readPattern {s : List Char} {r : Reading Pattern (skippedInline s).rest}
    (h : readPattern (skippedInline s).rest = .ok r) : ∃ core text, PatternText r.value core ∧
      Around isInlineBlank core text ∧ s = text ++ (skippedInline r.rest).rest := by
  obtain ⟨core, hcore, hpattern⟩ := readPattern_begins _ r h
  obtain ⟨before, hbefore, hs⟩ := exists_skipInline s
  obtain ⟨after, hafter, hrest⟩ := exists_skipInline r.rest
  refine ⟨core, _, hpattern, .mk hbefore hafter, ?_⟩
  calc
    s = before ++ skipInline s := hs
    _ = before ++ (core ++ r.rest) := congrArg (before ++ ·) hcore
    _ = before ++ (core ++ (after ++ skipInline r.rest)) :=
      congrArg (fun rest => before ++ (core ++ rest)) hrest
    _ = before ++ (core ++ after) ++ skipInline r.rest := by simp

theorem isPlain_of_parseArgument {shape : ArgumentShape} {s : List Char} {a : Argument}
    (h : parseArgument shape s = .ok a) : IsPlain shape := by
  cases shape with
  | none | text | pattern => cases h
  | ranges => exact Or.inl rfl
  | image => exact Or.inr (Or.inl rfl)
  | checks => exact Or.inr (Or.inr (Or.inl rfl))
  | signature => exact Or.inr (Or.inr (Or.inr rfl))

theorem readArgument_begins (kind : Kind) (whole s : List Char) :
    Yields (readArgument kind whole s) fun r => r.value.shape = kind.shape ∧
      ∃ text, s = text ++ ')' :: r.rest ∧ ArgumentText r.value text := by
  rw [readArgument.eq_def]
  split
  · rename_i hshape
    dsimp only
    split
    · exact yields_error _
    · rename_i p hp
      split
      · exact yields_error _
      · rename_i close hclose
        obtain ⟨core, text, hpattern, htext, hs⟩ := around_of_readPattern hp
        have hend : (skippedInline p.rest).rest = ')' :: close.rest := eq_of_readClose hclose
        rw [hend] at hs
        exact yields_ok ⟨hshape.symm, text, hs, .pattern hpattern htext⟩
  · rename_i hshape
    split
    · exact yields_error _
    · rename_i t ht
      dsimp only
      split
      · exact yields_error _
      · rename_i hne
        obtain ⟨raw, hraw, hs⟩ := escapedText_of_readText ht
        exact yields_ok ⟨hshape.symm, raw, hs,
          .text hraw (List.isEmpty_eq_false_iff.1 (Bool.not_eq_true _ ▸ hne))⟩
  · rename_i hpattern htext
    split
    · exact yields_error _
    · rename_i text htext
      dsimp only
      split
      · exact yields_error _
      · split
        · exact yields_error _
        · rename_i argument hargument
          have hplain := isPlain_of_parseArgument hargument
          obtain ⟨hshape, hargument⟩ := (parseArgument_trimList_iff hplain).1 hargument
          exact yields_ok ⟨hshape, _, eq_of_readUpTo? htext, hargument⟩

/-- An argument that is neither free text nor a pattern ends at the first parenthesis. -/
theorem readArgument_plainText {kind : Kind} {a : Argument} {s : List Char}
    (hplain : IsPlain a.shape) (hshape : a.shape = kind.shape) (h : ArgumentText a s)
    (whole rest : List Char) : Reads (readArgument kind whole (s ++ ')' :: rest)) a rest := by
  obtain ⟨r, hr, hvalue, hrest⟩ := readUpTo?_append (h.beq_close hplain) rest
  have hparse := (parseArgument_trimList_iff hplain).2 ⟨rfl, h⟩
  have hne : (trimList s).isEmpty = false := by
    rw [List.isEmpty_eq_false_iff]
    intro hnil
    rw [hnil] at hparse
    exact parseArgument_nil_ne_ok _ a hparse
  rw [hshape] at hplain hparse
  rw [readArgument]
  rcases hplain with hk | hk | hk | hk <;> rw [hk] at hparse ⊢ <;>
    simp only [hr, hvalue, hne, hparse] <;> exact ⟨_, rfl, rfl, hrest⟩

/-- **An argument is read by the grammar.** -/
theorem readArgument_argumentText {kind : Kind} {a : Argument} {s : List Char}
    (hshape : a.shape = kind.shape) (h : ArgumentText a s) (whole rest : List Char) :
    Reads (readArgument kind whole (s ++ ')' :: rest)) a rest := by
  cases h with
  | @text text s h hne =>
      obtain ⟨r, hr, hvalue, hrest⟩ := readText_escapedText h whole rest
      rw [readArgument, ← hshape]
      simp only [Argument.shape, hr, hvalue, List.isEmpty_eq_false_iff.2 hne]
      exact ⟨_, rfl, rfl, hrest⟩
  | @pattern p core s h hs =>
      have hparen : Stops isInlineBlank (')' :: rest) := stops_cons rfl
      obtain ⟨r, hr, hvalue, hleft⟩ := readPattern_around h hs hparen (stops_cons rfl)
      have hclose : Reads (readClose whole (skippedInline r.rest).rest) () rest := by
        rw [hleft]
        exact readClose_append whole rest
      obtain ⟨close, hclose, -, hend⟩ := hclose
      rw [readArgument, ← hshape]
      simp only [Argument.shape, hr, Reading.andThen, hclose]
      exact ⟨_, rfl, congrArg Argument.pattern hvalue, hend⟩
  | ranges h => exact readArgument_plainText (Or.inl rfl) hshape (.ranges h) whole rest
  | image h => exact readArgument_plainText (Or.inr (Or.inl rfl)) hshape (.image h) whole rest
  | checks h =>
      exact readArgument_plainText (Or.inr (Or.inr (Or.inl rfl))) hshape (.checks h) whole rest
  | signature h =>
      exact readArgument_plainText (Or.inr (Or.inr (Or.inr rfl))) hshape (.signature h) whole rest

theorem readArgument?_begins (kind : Kind) (whole s : List Char) :
    Yields (readArgument? kind whole s) fun r =>
      BeginsWith (ArgumentPartText kind) s r.value r.rest := by
  rw [readArgument?.eq_def]
  split
  · split
    · exact yields_error _
    · rename_i rest hallowed
      refine yields_map (readArgument_begins kind _ rest) fun r hr => ?_
      obtain ⟨hshape, text, htext, hargument⟩ := hr
      have hs : '(' :: rest = '(' :: (text ++ [')']) ++ r.rest :=
        (congrArg (List.cons '(') htext).trans (by simp)
      exact ⟨_, hs, .some hallowed hshape hargument⟩
  · split
    · exact yields_error _
    · rename_i hrequired
      exact yields_ok ⟨[], rfl, .none hrequired⟩

theorem readArgument?_argumentPartText {kind : Kind} {argument : Option Argument}
    {text rest : List Char} (h : ArgumentPartText kind argument text) (whole : List Char)
    (hrest : Stops (· == '(') rest) :
    Reads (readArgument? kind whole (text ++ rest)) argument rest := by
  cases h with
  | none h =>
      rw [List.nil_append, readArgument?]
      · rw [if_neg h]
        exact ⟨_, rfl, rfl, rfl⟩
      · rintro rest rfl
        cases hrest '(' rfl
  | @some a s hallowed hshape h =>
      obtain ⟨r, hr, hvalue, hleft⟩ :=
        readArgument_argumentText hshape h ('(' :: (s ++ ')' :: rest)) rest
      have htext : '(' :: (s ++ [')']) ++ rest = '(' :: (s ++ ')' :: rest) := by simp
      rw [htext, readArgument?, if_neg hallowed, hr]
      exact ⟨_, rfl, congrArg some hvalue, hleft⟩

/-! ### Spells -/

theorem ofWord?_eq_some {word : String} {kind : Kind} (h : Kind.ofWord? word = some kind) :
    kind.word = word := by
  rw [Kind.ofWord?] at h
  have hword := List.find?_some h
  exact eq_of_beq hword

theorem readSpell_begins (whole s : List Char) :
    Yields (readSpell whole s) fun r => BeginsWith SpellText ('#' :: s) r.value r.rest := by
  rw [readSpell]
  dsimp only
  split
  · exact yields_error _
  · split
    · exact yields_error _
    · rename_i kind hkind
      split
      · exact yields_error _
      · rename_i scope hscope
        split
        · exact yields_error _
        · rename_i argument hargument
          obtain ⟨t, ht, hscope⟩ := readScope?_begins _ scope hscope
          obtain ⟨u, hu, hargument⟩ := readArgument?_begins kind _ _ argument hargument
          have hword : (readWord s).value = kind.word.toList := by
            rw [ofWord?_eq_some hkind, String.toList_ofList]
          have hs : s = kind.word.toList ++ (t ++ (u ++ argument.rest)) := calc
            s = (readWord s).value ++ (readWord s).rest := List.takeWhile_append_dropWhile.symm
            _ = kind.word.toList ++ (readWord s).rest := by rw [hword]
            _ = kind.word.toList ++ (t ++ scope.rest) := congrArg (kind.word.toList ++ ·) ht
            _ = kind.word.toList ++ (t ++ (u ++ argument.rest)) :=
              congrArg (fun rest => kind.word.toList ++ (t ++ rest)) hu
          have htext : '#' :: s = '#' :: (kind.word.toList ++ (t ++ u)) ++ argument.rest :=
            (congrArg (List.cons '#') hs).trans (by simp)
          exact yields_ok ⟨_, htext, .mk hscope hargument⟩

theorem stops_argumentPartText {p : Char → Bool} (hp : p '(' = false) {kind : Kind}
    {argument : Option Argument} {text rest : List Char} (h : ArgumentPartText kind argument text)
    (hrest : Stops p rest) : Stops p (text ++ rest) := by
  cases h with
  | none => exact hrest
  | some => exact stops_cons hp

theorem stops_optionalScopeText {p : Char → Bool} (hp : p '[' = false) {scope : Option Scope}
    {text rest : List Char} (h : OptionalText ScopeText scope text) (hrest : Stops p rest) :
    Stops p (text ++ rest) := by
  cases h with
  | none => exact hrest
  | some h => cases h <;> exact stops_cons hp

/-- What does not go on with a spell goes on with none of its parts. -/
theorem stops_parts {rest : List Char} (h : Stops continuesSpell rest) :
    Stops Char.isAlphanum rest ∧ Stops (· == '[') rest ∧ Stops (· == '(') rest := by
  refine ⟨h.mono fun c hc => ?_, h.mono fun c hc => ?_, h.mono fun c hc => ?_⟩ <;>
    rw [continuesSpell, Bool.or_eq_false_iff, Bool.or_eq_false_iff] at hc
  · exact hc.1.1
  · exact hc.1.2
  · exact hc.2

/-- The word of a spell is what is read behind its `#`. -/
theorem readWord_spell (kind : Kind) {argument : Option Argument} {scope : Option Scope}
    {s t rest : List Char} (hscope : OptionalText ScopeText scope s)
    (hargument : ArgumentPartText kind argument t) (hrest : Stops Char.isAlphanum rest) :
    (readWord (kind.word.toList ++ (s ++ t) ++ rest)).value = kind.word.toList ∧
      (readWord (kind.word.toList ++ (s ++ t) ++ rest)).rest = s ++ (t ++ rest) := by
  rw [List.append_assoc, List.append_assoc]
  exact readWord_append (isAlphanum_of_mem_word kind) (stops_optionalScopeText (by decide) hscope
    (stops_argumentPartText (by decide) hargument hrest))

/-- **A spell is read by the grammar.** -/
theorem readSpell_spellText {spell : Spell} {s : List Char} (h : SpellText spell ('#' :: s))
    (whole : List Char) {rest : List Char} (hrest : Stops continuesSpell rest) :
    Reads (readSpell whole (s ++ rest)) spell rest := by
  generalize hmark : '#' :: s = text at h
  cases h with
  | @mk kind argument scope t u hscope hargument =>
      cases hmark
      obtain ⟨halnum, hbracket, hparen⟩ := stops_parts hrest
      obtain ⟨hword, hbehind⟩ := readWord_spell kind hscope hargument halnum
      have hne : kind.word.toList.isEmpty = false := by cases kind <;> rfl
      have hr := readScope?_scopeText hscope (stops_argumentPartText rfl hargument hbracket)
      rw [← hbehind] at hr
      obtain ⟨r, hr, hvalue, hleft⟩ := hr
      have ha := readArgument?_argumentPartText hargument whole hparen
      rw [← hleft] at ha
      obtain ⟨a, ha, havalue, haleft⟩ := ha
      rw [readSpell]
      simp only [hword, hne, String.ofList_toList, ofWord?_word, hr, ha]
      exact ⟨_, rfl, by simp [Reading.map, Reading.andThen, hvalue, havalue], haleft⟩

end PostFilter.Document
