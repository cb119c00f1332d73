import PostFilter.Proofs.Reading.Arguments

/-!
# Documents — spells are read as they are written

A reader is given the written form of a value and whatever stands behind it. It gives the value
back, and leaves what stands behind (`Reads`). What stands behind must not begin with a character
that would go on with the value: behind a spell that is a letter or digit, a bracket or a
parenthesis (`continuesSpell`).

The main result is `readSpell_text`.
-/

namespace PostFilter.Document

open Text

/-- Whether a reader gives a value and leaves a rest. -/
def Reads {α : Type} {s : List Char} (result : Except Failure (Reading α s)) (value : α)
    (rest : List Char) : Prop :=
  ∃ r, result = .ok r ∧ r.value = value ∧ r.rest = rest

/-! ### Words -/

theorem readWord_append {word rest : List Char} (hword : ∀ c ∈ word, c.isAlphanum = true)
    (hrest : Stops Char.isAlphanum rest) :
    (readWord (word ++ rest)).value = word ∧ (readWord (word ++ rest)).rest = rest :=
  ⟨takeWhile_append_of_stops hrest hword, dropWhile_append_of_stops hrest hword⟩

theorem isAlphanum_of_mem_word (kind : Kind) : ∀ c ∈ kind.word.toList, c.isAlphanum = true :=
  List.all_eq_true.1 (by cases kind <;> decide)

theorem ofWord?_word : ∀ kind : Kind, Kind.ofWord? kind.word = some kind
  | .words | .exp | .exph | .imgn | .subj | .name | .trip | .img | .sage | .op | .tlen | .all
  | .wipe | .num | .ihash | .video | .vauthor => by decide

/-- No kind is written like a replacement rule. -/
theorem word_ne_word_direction : ∀ (kind : Kind) (direction : Direction),
    kind.word ≠ direction.word := by
  intro kind direction
  cases kind <;> cases direction <;> decide

theorem readUpTo?_append {c : Char} {text : List Char} (h : ∀ d ∈ text, (d == c) = false)
    (rest : List Char) :
    ∃ r, readUpTo? c (text ++ c :: rest) = some r ∧ r.value = text ∧ r.rest = rest := by
  have hsplit : splitFirst? (· == c) (text ++ c :: rest) = some (text, rest) :=
    splitFirst?_append (p := (· == c)) (beq_self_eq_true c) h
  rw [readUpTo?]
  split
  · rename_i hnone
    rw [hnone] at hsplit
    cases hsplit
  · rename_i a b hsome
    rw [hsome] at hsplit
    cases hsplit
    exact ⟨_, rfl, rfl, rfl⟩

/-! ### Scopes -/

theorem isBlank_of_isBoardChar {c : Char} (h : isBoardChar c = true) : isBlank c = false :=
  isBlank_eq_false (by decide +kernel) h

/-- The written form of a scope without its brackets. -/
def scopeBody (scope : Scope) : List Char :=
  scope.board.toList ++
    match scope.thread with
    | .anywhere => []
    | .boardOnly => [',', '-']
    | .thread n => ',' :: decimalDigits n.toNat

theorem toList_text_scope (scope : Scope) :
    scope.text.toList = '[' :: (scopeBody scope ++ [']']) := by
  obtain ⟨board, thread⟩ := scope
  cases thread <;> simp [Scope.text, scopeBody]

/-- Only the characters of board names and the signs of threads stand between the brackets. -/
theorem scopeBody_beq {scope : Scope} (h : scope.IsWellFormed) {d : Char}
    (hboard : isBoardChar d = false)
    (hthread : (',' == d) = false ∧ ('-' == d) = false ∧ isDigit d = false) :
    ∀ c ∈ scopeBody scope, (c == d) = false := by
  intro c hc
  rcases List.mem_append.1 hc with hc | hc
  · exact beq_eq_false (h.2 c hc) hboard
  · split at hc
    · cases hc
    · rw [List.mem_cons, List.mem_singleton] at hc
      rcases hc with rfl | rfl
      · exact hthread.1
      · exact hthread.2.1
    · rcases List.mem_cons.1 hc with rfl | hc
      · exact hthread.1
      · exact digits_beq hthread.2.2 c hc

/-- **A scope is read as it is written.** -/
theorem readScope_body {scope : Scope} (h : scope.IsWellFormed) (whole rest : List Char) :
    Reads (readScope whole (scopeBody scope ++ ']' :: rest)) scope rest := by
  obtain ⟨body, hbody, hvalue, hrest⟩ :=
    readUpTo?_append (scopeBody_beq h (d := ']') (by decide) (by decide)) rest
  obtain ⟨board, thread⟩ := scope
  have hcomma : ∀ c ∈ board.toList, (c == ',') = false :=
    fun c hc => beq_eq_false (h.2 c hc) (by decide)
  have htrim : trimList board.toList = board.toList :=
    trimList_eq_self fun c hc => isBlank_of_isBoardChar (h.2 c hc)
  have hall : board.toList.all isBoardChar = true := List.all_eq_true.2 h.2
  have hne : board.toList.isEmpty = false := by
    rw [List.isEmpty_eq_false_iff, ne_eq, String.toList_eq_nil_iff]
    exact h.1
  rw [readScope, hbody]
  simp only [hvalue, scopeBody]
  cases thread with
  | anywhere =>
      simp only [List.append_nil, splitFirst?_eq_none hcomma, Option.map_none, Option.getD_none,
        htrim, hne, hall]
      exact ⟨_, rfl, by simp [Reading.map], hrest⟩
  | boardOnly =>
      have hsplit : splitFirst? (· == ',') (board.toList ++ [',', '-']) =
          some (board.toList, ['-']) := splitFirst?_append rfl hcomma
      simp only [hsplit, Option.map_some, Option.getD_some, htrim, hne, hall]
      exact ⟨_, rfl, by simp [Reading.map], hrest⟩
  | thread n =>
      have hsplit : splitFirst? (· == ',') (board.toList ++ ',' :: decimalDigits n.toNat) =
          some (board.toList, decimalDigits n.toNat) := splitFirst?_append rfl hcomma
      -- The number of a thread is not taken for the sign of a board without threads.
      have hdash : decimalDigits n.toNat ≠ ['-'] := by
        intro heq
        have hdigit : isDigit '-' = true :=
          isDigit_of_mem_decimalDigits (heq ▸ List.mem_singleton_self '-')
        cases hdigit
      simp only [hsplit, Option.map_some, Option.getD_some, htrim, hne, hall, trimList_digits]
      rw [if_neg (by decide), readNumber_digits]
      exact ⟨_, rfl, by simp [Reading.map], hrest⟩

/-- The written form of a scope that may be missing. -/
def scopeText (scope : Option Scope) : List Char := (scope.map fun s => s.text.toList).getD []

theorem readScope?_text {scope : Option Scope} (h : ∀ s ∈ scope, s.IsWellFormed)
    {rest : List Char} (hrest : Stops (· == '[') rest) :
    Reads (readScope? (scopeText scope ++ rest)) scope rest := by
  cases scope with
  | none =>
      rw [scopeText, Option.map_none, Option.getD_none, List.nil_append, readScope?]
      · exact ⟨_, rfl, rfl, rfl⟩
      · rintro rest rfl
        cases hrest '[' rfl
  | some s =>
      obtain ⟨r, hr, hvalue, hleft⟩ := readScope_body (h s rfl)
        (s.text.toList ++ rest) rest
      have htext : scopeText (some s) ++ rest = '[' :: (scopeBody s ++ ']' :: rest) := by
        rw [scopeText, Option.map_some, Option.getD_some, toList_text_scope]
        simp
      rw [htext, readScope?]
      rw [toList_text_scope, List.cons_append, List.append_assoc, List.singleton_append] at hr
      rw [hr]
      exact ⟨_, rfl, congrArg some hvalue, hleft⟩

/-! ### Patterns -/

theorem scanPattern_append {inClass : Bool} {s a b : List Char} (t : List Char)
    (h : scanPattern inClass s = some (a, b)) :
    scanPattern inClass (s ++ t) = some (a, b ++ t) := by
  fun_induction scanPattern inClass s generalizing a b with
  | case1 => cases h
  | case2 => cases h
  | case3 inClass c hc d more ih =>
      obtain ⟨⟨a', b'⟩, hmore, heq⟩ := Option.map_eq_some_iff.1 h
      cases heq
      rw [List.cons_append, List.cons_append, scanPattern.eq_def]
      simp only [if_pos hc, ih hmore, Option.map_some]
  | case4 inClass c rest hc hslash =>
      cases h
      rw [List.cons_append, scanPattern.eq_def]
      simp only [if_neg hc, if_pos hslash]
  | case5 inClass c rest hc hslash =>
      rename_i ih
      obtain ⟨⟨a', b'⟩, hmore, heq⟩ := Option.map_eq_some_iff.1 h
      cases heq
      rw [List.cons_append, scanPattern.eq_def]
      simp only [if_neg hc, if_neg hslash]
      exact (congrArg (Option.map _) (ih hmore)).trans rfl

/-- A source that ends at the slash behind it does so whatever follows. -/
theorem scanPattern_source {p : Pattern} (h : p.IsLiteral) (rest : List Char) :
    scanPattern false (p.source.toList ++ '/' :: rest) = some (p.source.toList, rest) := by
  have hscan := scanPattern_append rest h.2
  rwa [List.append_assoc, List.singleton_append, List.nil_append] at hscan

theorem readSource?_source {p : Pattern} (h : p.IsLiteral) (rest : List Char) :
    ∃ r, readSource? (p.source.toList ++ '/' :: rest) = some r ∧
      r.value = p.source.toList ∧ r.rest = rest := by
  have hscan := scanPattern_source h rest
  rw [readSource?]
  split
  · rename_i hnone
    rw [hnone] at hscan
    cases hscan
  · rename_i a b hsome
    rw [hsome] at hscan
    cases hscan
    exact ⟨_, rfl, rfl, rfl⟩

theorem ofLetters_letters : ∀ flags : Pattern.Flags,
    Pattern.Flags.ofLetters flags.letters = .ok flags := by
  rintro ⟨ignoreCase, multiLine, dotAll, unicode, spaced⟩
  cases ignoreCase <;> cases multiLine <;> cases dotAll <;> cases unicode <;> cases spaced <;> rfl

theorem isAlpha_of_mem_letters (flags : Pattern.Flags) : ∀ c ∈ flags.letters,
    c.isAlpha = true := by
  obtain ⟨ignoreCase, multiLine, dotAll, unicode, spaced⟩ := flags
  refine List.all_eq_true.1 ?_
  cases ignoreCase <;> cases multiLine <;> cases dotAll <;> cases unicode <;> cases spaced <;> rfl

/-- The parts of a pattern make the pattern again. -/
theorem read_parts (p : Pattern) : Pattern.read p.source p.flags.text = .ok p := by
  have hflags : Pattern.Flags.ofLetters p.flags.text.toList = .ok p.flags := by
    rw [Pattern.Flags.text, String.toList_ofList, ofLetters_letters]
  have hpattern : Pattern.ofFlags p.source p.flags = .ok p := by
    rw [Pattern.ofFlags]
    split
    · rename_i fault hfault
      rw [p.resolves] at hfault
      cases hfault
    · exact congrArg Except.ok (Pattern.ext rfl rfl)
  rw [Pattern.read, hflags]
  exact hpattern

theorem toList_text_pattern (p : Pattern) :
    p.text.toList = '/' :: (p.source.toList ++ '/' :: p.flags.letters) := by
  simp [Pattern.text, Pattern.Flags.text]

/-- **A pattern is read as it is written.** -/
theorem readPattern_text {p : Pattern} (h : p.IsLiteral) {rest : List Char}
    (hrest : Stops Char.isAlpha rest) : Reads (readPattern (p.text.toList ++ rest)) p rest := by
  obtain ⟨source, hsource, hvalue, hleft⟩ := readSource?_source h (p.flags.letters ++ rest)
  have htext : p.text.toList ++ rest =
      '/' :: (p.source.toList ++ '/' :: (p.flags.letters ++ rest)) := by
    rw [toList_text_pattern]
    simp
  have hne : p.source.toList.isEmpty = false := by
    rw [List.isEmpty_eq_false_iff, ne_eq, String.toList_eq_nil_iff]
    exact h.1
  have hletters : (Reading.run Char.isAlpha source.rest).value = p.flags.letters := by
    rw [hleft]
    exact takeWhile_append_of_stops hrest (isAlpha_of_mem_letters p.flags)
  have hend : (Reading.run Char.isAlpha source.rest).rest = rest := by
    rw [hleft]
    exact dropWhile_append_of_stops hrest (isAlpha_of_mem_letters p.flags)
  have hread : Pattern.read (String.ofList p.source.toList) (String.ofList p.flags.letters) =
      .ok p := by
    rw [String.ofList_toList]
    exact read_parts p
  rw [htext, readPattern, hsource]
  simp only [hvalue, hne, Reading.andThen, hletters, hread]
  exact ⟨_, rfl, rfl, hend⟩

/-! ### Free text -/

/-- Escapes are undone, and the text ends at the first parenthesis that has none. -/
theorem scanText_escape (rest : List Char) : ∀ text : List Char,
    scanText (escape text ++ ')' :: rest) = some (text, rest)
  | [] => by
      rw [escape, List.nil_append, scanText.eq_def]
      rfl
  | c :: text => by
      rw [escape]
      split
      · rename_i hc
        have hspecial : (c == '(' || c == ')' || c == '\\') = true := by
          simp only [Bool.or_eq_true] at hc
          rcases hc with (h | h) | h <;> simp only [h, Bool.or_true, Bool.true_or]
        rw [List.cons_append, List.cons_append, scanText.eq_def]
        simp [hspecial, scanText_escape rest text]
      · rename_i hc
        rw [List.cons_append, scanText.eq_def]
        simp_all [scanText_escape rest text]

theorem readText_escape (text whole rest : List Char) :
    Reads (readText whole (escape text ++ ')' :: rest)) text rest := by
  have hscan := scanText_escape rest text
  rw [readText]
  split
  · rename_i hnone
    rw [hnone] at hscan
    cases hscan
  · rename_i a b hsome
    rw [hsome] at hscan
    cases hscan
    exact ⟨_, rfl, rfl, rfl⟩

theorem skipInline_eq_self {s : List Char} (h : Stops isInlineBlank s) : skipInline s = s :=
  dropWhile_eq_self h

/-! ### Arguments -/

theorem readClose_append (whole rest : List Char) :
    Reads (readClose whole (')' :: rest)) () rest := ⟨_, rfl, rfl, rfl⟩

theorem parseArgument_nil_ne_ok (shape : ArgumentShape) (a : Argument) :
    parseArgument shape [] ≠ .ok a := by
  intro h
  cases shape <;> cases h

/-- Plain arguments end at the first parenthesis. -/
theorem readArgument_plain {kind : Kind} {a : Argument} (ha : IsPlain a.shape)
    (hshape : a.shape = kind.shape) (h : a.IsWellFormed) (whole rest : List Char) :
    Reads (readArgument kind whole (a.written.toList ++ ')' :: rest)) a rest := by
  -- No plain character is a parenthesis or a blank, so the text is taken whole and kept whole.
  have hchar : ∀ c ∈ a.written.toList, isPlainChar c = true := isPlainChar_of_mem_written ha
  obtain ⟨r, hr, hvalue, hrest⟩ :=
    readUpTo?_append (fun c hc => beq_eq_false (hchar c hc) (d := ')') rfl) rest
  have htrim : trimList a.written.toList = a.written.toList :=
    trimList_eq_self fun c hc => isBlank_of_isPlainChar (hchar c hc)
  have hparse := parseArgument_written ha h
  have hne : a.written.toList.isEmpty = false := by
    rw [List.isEmpty_eq_false_iff]
    intro hnil
    rw [hnil] at hparse
    exact parseArgument_nil_ne_ok _ a hparse
  rw [readArgument]
  rw [hshape] at ha hparse
  rcases ha with hk | hk | hk | hk <;> rw [hk] at hparse ⊢ <;>
    simp only [hr, hvalue, htrim, hne, hparse] <;> exact ⟨_, rfl, rfl, hrest⟩

/-- **An argument is read as it is written.** -/
theorem readArgument_written {kind : Kind} {a : Argument} (hshape : a.shape = kind.shape)
    (h : a.IsWellFormed) (whole rest : List Char) :
    Reads (readArgument kind whole (a.written.toList ++ ')' :: rest)) a rest := by
  cases a with
  | ranges rs => exact readArgument_plain (Or.inl rfl) hshape h whole rest
  | image b => exact readArgument_plain (Or.inr (Or.inl rfl)) hshape h whole rest
  | checks cs => exact readArgument_plain (Or.inr (Or.inr (Or.inl rfl))) hshape h whole rest
  | signature n => exact readArgument_plain (Or.inr (Or.inr (Or.inr rfl))) hshape h whole rest
  | text t =>
      have hwritten : (Argument.text t).written.toList = escape t.toList := by
        rw [Argument.written, escapeText, String.toList_ofList]
      obtain ⟨r, hr, hvalue, hrest⟩ := readText_escape t.toList whole rest
      have hne : t.toList.isEmpty = false := by
        rw [List.isEmpty_eq_false_iff, ne_eq, String.toList_eq_nil_iff]
        exact h.1
      rw [hwritten, readArgument, ← hshape]
      simp only [Argument.shape, hr, hvalue, trimList_toList h.2, hne]
      exact ⟨_, rfl, by simp [Reading.map], hrest⟩
  | pattern p =>
      have hstart : (skippedInline (p.text.toList ++ ')' :: rest)).rest =
          p.text.toList ++ ')' :: rest := by
        rw [toList_text_pattern]
        exact skipInline_eq_self (stops_cons rfl)
      have hpattern : Reads (readPattern (skippedInline (p.text.toList ++ ')' :: rest)).rest) p
          (')' :: rest) := by
        rw [hstart]
        exact readPattern_text h (stops_cons rfl)
      obtain ⟨r, hr, hvalue, hleft⟩ := hpattern
      have hclose : Reads (readClose whole (skippedInline r.rest).rest) () rest := by
        have hbehind : (skippedInline r.rest).rest = ')' :: rest := by
          rw [hleft]
          exact skipInline_eq_self (stops_cons rfl)
        rw [hbehind]
        exact readClose_append whole rest
      obtain ⟨close, hclose, -, hend⟩ := hclose
      rw [Argument.written, readArgument, ← hshape]
      simp only [Argument.shape, hr, Reading.andThen, hclose]
      exact ⟨_, rfl, congrArg Argument.pattern hvalue, hend⟩

/-- The written form of an argument that may be missing, in its parentheses. -/
def argumentText (argument : Option Argument) : List Char :=
  (argument.map fun a => '(' :: (a.written.toList ++ [')'])).getD []

theorem readArgument?_text {kind : Kind} {argument : Option Argument} (h : kind.Takes argument)
    (whole : List Char) {rest : List Char} (hrest : Stops (· == '(') rest) :
    Reads (readArgument? kind whole (argumentText argument ++ rest)) argument rest := by
  cases argument with
  | none =>
      rw [argumentText, Option.map_none, Option.getD_none, List.nil_append, readArgument?]
      · rw [if_neg h]
        exact ⟨_, rfl, rfl, rfl⟩
      · rintro rest rfl
        cases hrest '(' rfl
  | some a =>
      obtain ⟨hallowed, hshape, ha⟩ := h
      obtain ⟨r, hr, hvalue, hleft⟩ :=
        readArgument_written hshape ha ('(' :: (a.written.toList ++ ')' :: rest)) rest
      have htext : argumentText (some a) ++ rest = '(' :: (a.written.toList ++ ')' :: rest) := by
        rw [argumentText, Option.map_some, Option.getD_some]
        simp
      rw [htext, readArgument?, if_neg hallowed, hr]
      exact ⟨_, rfl, congrArg some hvalue, hleft⟩

/-! ### Spells -/

/-- Whether a character behind a spell would go on with it. -/
def continuesSpell (c : Char) : Bool := c.isAlphanum || c == '[' || c == '('

/-- The written form of a spell behind its `#`, its negation left aside. -/
def spellBody (s : Spell) : List Char :=
  s.kind.word.toList ++ (scopeText s.scope ++ argumentText s.argument)

theorem toList_text_spell (s : Spell) :
    s.text.toList = (if s.negated then ['!'] else []) ++ '#' :: spellBody s := by
  obtain ⟨kind, argument, scope, negated⟩ := s
  cases negated <;> cases scope <;> cases argument <;>
    simp [Spell.text, Kind.text, spellBody, scopeText, argumentText]

/-- What stands behind a part of a spell does not go on with the part before it. -/
theorem stops_argumentText {p : Char → Bool} (hp : p '(' = false) (argument : Option Argument)
    {rest : List Char} (hrest : Stops p rest) : Stops p (argumentText argument ++ rest) := by
  cases argument with
  | none => exact hrest
  | some a => exact stops_cons hp

theorem stops_scopeText {p : Char → Bool} (hp : p '[' = false) (scope : Option Scope)
    {rest : List Char} (hrest : Stops p rest) : Stops p (scopeText scope ++ rest) := by
  cases scope with
  | none => exact hrest
  | some s =>
      rw [scopeText, Option.map_some, Option.getD_some, toList_text_scope]
      exact stops_cons hp

/-- The word and the scope of a spell are read as they are written, and the rest is its argument. -/
theorem readSpell_eq (kind : Kind) {scope : Option Scope} (hscope : ∀ s ∈ scope, s.IsWellFormed)
    (whole : List Char) {rest : List Char} (hword : Stops Char.isAlphanum rest)
    (hbracket : Stops (· == '[') rest) :
    ∃ r : Reading (Option Scope) (kind.word.toList ++ (scopeText scope ++ rest)),
      r.value = scope ∧ r.rest = rest ∧
      readSpell whole (kind.word.toList ++ (scopeText scope ++ rest)) =
        (readArgument? kind whole r.rest).map fun argument =>
          r.andThen (argument.map fun _ => ⟨kind, argument.value, scope, false⟩) := by
  obtain ⟨hvalue, hbehind⟩ := readWord_append (isAlphanum_of_mem_word kind)
    (stops_scopeText (by decide) scope hword)
  have hne : kind.word.toList.isEmpty = false := by cases kind <;> rfl
  have hread : Reads (readScope? (readWord (kind.word.toList ++ (scopeText scope ++ rest))).rest)
      scope rest := by
    rw [hbehind]
    exact readScope?_text hscope hbracket
  obtain ⟨r, hr, hrvalue, hleft⟩ := hread
  refine ⟨(readWord _).andThen r, hrvalue, hleft, ?_⟩
  rw [readSpell]
  simp only [hvalue, hne, String.ofList_toList, ofWord?_word, hr, hrvalue]
  change _ = (readArgument? kind whole r.rest).map _
  cases readArgument? kind whole r.rest <;> rfl

/-- **A spell is read as it is written.** -/
theorem readSpell_text {s : Spell} (h : s.IsWellFormed) (whole : List Char) {rest : List Char}
    (hrest : Stops continuesSpell rest) :
    Reads (readSpell whole (spellBody s ++ rest)) { s with negated := false } rest := by
  obtain ⟨kind, argument, scope, negated⟩ := s
  have halnum : Stops Char.isAlphanum rest := hrest.mono fun c hc => by
    rw [continuesSpell, Bool.or_eq_false_iff, Bool.or_eq_false_iff] at hc
    exact hc.1.1
  have hbracket : Stops (· == '[') rest := hrest.mono fun c hc => by
    rw [continuesSpell, Bool.or_eq_false_iff, Bool.or_eq_false_iff] at hc
    exact hc.1.2
  have hparen : Stops (· == '(') rest := hrest.mono fun c hc => by
    rw [continuesSpell, Bool.or_eq_false_iff] at hc
    exact hc.2
  have htext : spellBody ⟨kind, argument, scope, negated⟩ ++ rest =
      kind.word.toList ++ (scopeText scope ++ (argumentText argument ++ rest)) := by
    simp only [spellBody, List.append_assoc]
  obtain ⟨r, -, hleft, he⟩ := readSpell_eq kind h.scope whole
    (stops_argumentText (by decide) argument halnum)
    (stops_argumentText (by decide) argument hbracket)
  have hargument := readArgument?_text h.argument whole hparen
  rw [← hleft] at hargument
  obtain ⟨a, ha, havalue, haleft⟩ := hargument
  rw [htext, he, ha]
  exact ⟨_, rfl, by simp [Reading.map, Reading.andThen, havalue], haleft⟩

end PostFilter.Document
