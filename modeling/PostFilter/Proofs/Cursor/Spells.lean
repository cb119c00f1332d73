import PostFilter.Document.Cursor
import PostFilter.Proofs.Grammar.Spells
import PostFilter.Proofs.Text.Bytes

/-!
# Documents — the reader by offsets follows the reader: spells

Two readers go through the same text: one keeps what is left of it, the other an offset. They are
together if what is left stands at the offset (`At`). From there on, the second one `Follows` the
first one: it hands back the same value with the cursor on what the first one leaves, or the same
fault at the offset of the rest that the first one reports. A step that slips follows nothing, so
each lemma here says that no check fails.

Each checked operation goes through at an offset that a rest of the text stands at; each reader has
a lemma, from those of the readers it calls.
-/

namespace PostFilter.Document.Cursor

open Text

/-! ### Following -/

/-- The outcome of a reader and that of its counterpart by offsets, with `Same` between what they
hand back. -/
inductive Follows {ρ β : Type} (text : List Char) (Same : ρ → β → Prop) :
    Except Failure ρ → Except Stop β → Prop where
  | ok {r : ρ} {b : β} (h : Same r b) : Follows text Same (.ok r) (.ok b)
  | fault {failure : Failure} {offset : Nat} (h : At text offset failure.rest) :
      Follows text Same (.error failure) (.error (.fault failure.cause offset))

/-- The same value, and the cursor on the rest. -/
def Lands {α : Type} {s : List Char} (text : List Char) (r : Reading α s) (taken : Taken α) :
    Prop :=
  taken.1 = r.value ∧ At text taken.2 r.rest

section
variable {text s t : List Char} {pos : Nat} {ρ ρ' β β' : Type}
  {Same : ρ → β → Prop} {Same' : ρ' → β' → Prop} {read : Except Failure ρ} {out : Except Stop β}

theorem Follows.cases (h : Follows text Same read out) :
    (∃ failure offset, read = .error failure ∧ out = .error (.fault failure.cause offset) ∧
      At text offset failure.rest) ∨ ∃ r b, read = .ok r ∧ out = .ok b ∧ Same r b := by
  cases h with
  | ok h => exact Or.inr ⟨_, _, rfl, rfl, h⟩
  | fault h => exact Or.inl ⟨_, _, rfl, rfl, h⟩

/-- A reader that goes on behind another one, and hands on its faults. -/
theorem Follows.bind (h : Follows text Same read out) {read' : Except Failure ρ'}
    {step : β → Except Stop β'} (hfault : ∀ failure, read = .error failure → read' = .error failure)
    (hok : ∀ r b, read = .ok r → Same r b → Follows text Same' read' (step b)) :
    Follows text Same' read' (out >>= step) := by
  obtain ⟨failure, offset, hread, rfl, hat⟩ | ⟨r, b, hread, rfl, hsame⟩ := h.cases
  · rw [hfault failure hread]
    exact .fault hat
  · exact hok r b hread hsame

theorem Follows.map (h : Follows text Same read out) {f : ρ → ρ'} {g : β → β'}
    (hsame : ∀ r b, Same r b → Same' (f r) (g b)) :
    Follows text Same' (read.map f) (out >>= fun b => pure (g b)) := by
  cases h with
  | ok h => exact .ok (hsame _ _ h)
  | fault h => exact .fault h

/-! ### Checked operations -/

theorem ok_bind (b : β) (step : β → Except Stop β') : (Except.ok b >>= step) = step b := rfl

theorem moveTo_of_at (h : At text pos s) : moveTo text pos = .ok pos :=
  if_pos (isBoundary_iff.2 ⟨s, h⟩)

theorem follows_fail (h : At text pos s) (cause : Cause) :
    Follows text Same (.error ⟨cause, s⟩) (fail text cause pos) := by
  rw [fail, if_pos (isBoundary_iff.2 ⟨s, h⟩)]
  exact .fault h

theorem cut_of_at (h : At text pos (s ++ t)) : cut text pos (pos + byteLength s) = .ok s := by
  obtain ⟨front, hfront⟩ := h.splitBytes?
  rw [cut, if_pos (Nat.le_add_right ..), hfront, Option.bind_some, Nat.add_sub_cancel_left]
  dsimp only
  rw [splitBytes?_eq_some_iff.2 ⟨rfl, rfl⟩]

theorem cut_run {p : Char → Bool} (h : At text pos s) (hp : IsAsciiTest p) :
    cut text pos (runEnd p text pos) = .ok (s.takeWhile p) := by
  rw [runEnd_of_at h hp]
  exact cut_of_at (by rwa [List.takeWhile_append_dropWhile])

theorem cutFrom_of_at (h : At text pos s) : cutFrom text pos = .ok s := by
  obtain ⟨front, hfront⟩ := h.splitBytes?
  rw [cutFrom, hfront]

theorem charAt_of_at {c : Char} (h : At text pos (c :: s)) : charAt text pos = .ok c := by
  rw [charAt, cutFrom_of_at h]
  rfl

theorem find_of_at {d : Char} (h : At text pos s) (hd : d.toNat < 128) : find text d pos =
    .ok ((splitFirst? (· == d) s).map fun (a, _) => pos + byteLength a) := by
  rw [find, if_pos h.le, findByte?_of_at h hd]

/-! ### Blanks -/

theorem isAsciiTest_isInlineBlank : IsAsciiTest isInlineBlank :=
  isAsciiTest_of_lt fun c hc => by
    rcases isInlineBlank_eq hc with rfl | rfl | rfl
    all_goals decide

theorem isAsciiTest_isAnyBlank : IsAsciiTest isAnyBlank :=
  isAsciiTest_of_lt fun c hc => by
    rcases Bool.or_eq_true_iff.1 hc with hinline | hline
    · rcases isInlineBlank_eq hinline with rfl | rfl | rfl
      all_goals decide
    · rw [eq_of_beq hline]
      decide

theorem utf8Size_of_lt {c : Char} (hc : c.toNat < 128) : c.utf8Size = 1 :=
  Char.utf8Size_eq_one_iff.2 (Nat.le_of_lt_succ hc)

theorem at_behind {c : Char} (h : At text pos (c :: s)) : At text (pos + c.utf8Size) s := by
  have hbehind : At text (pos + byteLength [c]) s := h.behind
  rwa [byteLength_cons] at hbehind

theorem at_succ {c : Char} (h : At text pos (c :: s)) (hc : c.toNat < 128) :
    At text (pos + 1) s := by
  have hbehind := at_behind h
  rwa [utf8Size_of_lt hc] at hbehind

theorem skipInline_of_at (h : At text pos s) :
    ∃ next, skipInline text pos = .ok next ∧ At text next (skippedInline s).rest := by
  change ∃ next, skipInline text pos = .ok next ∧ At text next (Document.skipInline s)
  induction s generalizing pos with
  | nil =>
      refine ⟨pos, ?_, h⟩
      rw [skipInline]
      split
      · rfl
      · rename_i hb
        rw [byteAt?_of_at_nil h] at hb
        cases hb
  | cons c s ih =>
      obtain ⟨b, hb, halike⟩ := byteAt?_of_at_cons h
      have hblank : isInlineBlank b = isInlineBlank c := halike _ isAsciiTest_isInlineBlank
      rw [skipInline, Document.skipInline, List.dropWhile_cons]
      split
      · rename_i hnone
        rw [hb] at hnone
        cases hnone
      · rename_i hsome
        cases hb.symm.trans hsome
        rw [hblank]
        cases hc : isInlineBlank c with
        | false => exact ⟨pos, rfl, h⟩
        | true =>
            have hlt : c.toNat < 128 := by
              rcases isInlineBlank_eq hc with rfl | rfl | rfl
              all_goals decide
            have hnext := at_succ h hlt
            obtain ⟨next, hskip, hat⟩ := ih hnext
            refine ⟨next, ?_, hat⟩
            rw [if_pos rfl, moveTo_of_at hnext]
            exact hskip

theorem skipAny_of_at (h : At text pos s) :
    ∃ next, skipAny text pos = .ok next ∧ At text next (skippedAny s).rest :=
  have hend := at_runEnd h isAsciiTest_isAnyBlank
  ⟨_, moveTo_of_at hend, hend⟩

theorem skipBlanks_of_at (inside : Bool) (h : At text pos s) :
    ∃ next, skipBlanks text inside pos = .ok next ∧ At text next (skippedBlanks inside s).rest := by
  cases inside with
  | true => exact skipAny_of_at h
  | false => exact skipInline_of_at h

/-! ### Words and scopes -/

theorem lt_of_isAlphanum {c : Char} (h : c.isAlphanum = true) : c.toNat < 128 := by
  have hbelow (d : Char) (hd : d.toNat < 128) (hle : c.val ≤ d.val) : c.toNat < 128 :=
    Nat.lt_of_le_of_lt (UInt32.le_iff_toNat_le.1 hle) hd
  rcases Bool.or_eq_true_iff.1 h with halpha | hdigit
  · rcases Bool.or_eq_true_iff.1 halpha with hupper | hlower
    · exact hbelow 'Z' (by decide) (of_decide_eq_true hupper).2
    · exact hbelow 'z' (by decide) (of_decide_eq_true (Bool.and_eq_true_iff.1 hlower).2)
  · exact hbelow '9' (by decide) (of_decide_eq_true (Bool.and_eq_true_iff.1 hdigit).2)

theorem isAsciiTest_isAlphanum : IsAsciiTest Char.isAlphanum :=
  isAsciiTest_of_lt fun _ => lt_of_isAlphanum

theorem isAsciiTest_isAlpha : IsAsciiTest Char.isAlpha :=
  isAsciiTest_of_lt fun _ h => lt_of_isAlphanum (Bool.or_eq_true_iff.2 (Or.inl h))

theorem direction?_of_at (h : At text pos s) :
    direction? text pos = .ok (Document.direction? s) := by
  rw [direction?]
  by_cases hsign : ∃ rest, s = '#' :: rest
  · rw [if_pos ((byteAt?_beq_iff h (by decide)).2 hsign)]
    obtain ⟨rest, rfl⟩ := hsign
    rw [cut_run (at_succ h (by decide)) isAsciiTest_isAlphanum]
    rfl
  · rw [if_neg (mt (byteAt?_beq_iff h (by decide)).1 hsign), Document.direction?]
    · rfl
    · exact fun rest hs => hsign ⟨rest, hs⟩

theorem map_readUpTo? (d : Char) (s : List Char) :
    (readUpTo? d s).map (fun r => (r.value, r.rest)) = splitFirst? (· == d) s := by
  rw [readUpTo?]
  split
  · rename_i hsplit
    exact hsplit.symm
  · rename_i hsplit
    exact hsplit.symm

theorem readScope_eq (whole s : List Char) : readScope whole s =
    match readUpTo? ']' s with
    | none => .error ⟨.scopeUnclosed, whole⟩
    | some body =>
      match scopeOf body.value with
      | .error cause => .error ⟨cause, whole⟩
      | .ok scope => .ok (body.map fun _ => scope) := by
  rw [readScope]
  cases readUpTo? ']' s with
  | none => rfl
  | some body =>
      dsimp only
      rw [scopeOf]
      split
      · rfl
      · generalize (splitFirst? (· == ',') body.value).map (fun p => trimList p.2) = thread
        cases thread with
        | none => rfl
        | some t =>
            by_cases hdash : t = ['-']
            · subst hdash
              rfl
            · -- Neither side is in its case for a dash.
              simp only
              cases readNumber t with
              | ok n => rfl
              | error _ => rfl

theorem follows_readScope (h : At text pos ('[' :: s)) :
    Follows text (Lands text) (readScope ('[' :: s) s) (takeScope text pos) := by
  rw [readScope_eq, takeScope, find_of_at h (by decide), ok_bind, splitFirst?]
  cases hbody : readUpTo? ']' s with
  | none =>
      rw [← map_readUpTo?, hbody]
      exact follows_fail h _
  | some body =>
      have hnext : At text (pos + 1) (body.value ++ ']' :: body.rest) := by
        rw [← eq_of_readUpTo? hbody]
        exact at_succ h (by decide)
      have hclose : pos + byteLength ('[' :: body.value) = pos + 1 + byteLength body.value := by
        rw [byteLength_cons, Nat.add_assoc]
        rfl
      rw [← map_readUpTo?, hbody]
      dsimp only [Option.map_some]
      rw [if_neg (by decide)]
      dsimp only [Option.map_some]
      rw [hclose, cut_of_at hnext, ok_bind]
      cases scopeOf body.value with
      | error cause => exact follows_fail h cause
      | ok scope =>
          have hbehind := at_succ hnext.behind (by decide)
          dsimp only
          rw [moveTo_of_at hbehind]
          exact .ok ⟨rfl, hbehind⟩

theorem follows_readScope? (h : At text pos s) :
    Follows text (Lands text) (readScope? s) (takeScope? text pos) := by
  rw [takeScope?]
  by_cases hopen : ∃ rest, s = '[' :: rest
  · rw [if_pos ((byteAt?_beq_iff h (by decide)).2 hopen)]
    obtain ⟨rest, rfl⟩ := hopen
    exact (follows_readScope h).map fun r taken hlands => ⟨congrArg some hlands.1, hlands.2⟩
  · rw [if_neg (mt (byteAt?_beq_iff h (by decide)).1 hopen), readScope?]
    · exact .ok ⟨rfl, h⟩
    · exact fun rest hs => hopen ⟨rest, hs⟩

/-! ### Patterns -/

theorem patternEnd?_of_byteAt? {inClass : Bool} {b : Char} (hb : byteAt? text pos = some b) :
    patternEnd? text inClass pos =
      if b == '\\' then patternEnd? text inClass (pos + 2)
      else if b == '/' && !inClass then some pos
      else patternEnd? text (if b == '[' then true else if b == ']' then false else inClass)
        (pos + 1) := by
  rw [patternEnd?]
  split
  · rename_i hnone
    rw [hb] at hnone
    cases hnone
  · rename_i hsome
    cases hb.symm.trans hsome
    rfl

theorem patternEnd?_of_le {inClass : Bool} (h : byteLength text ≤ pos) :
    patternEnd? text inClass pos = none := by
  rw [patternEnd?]
  split
  · rfl
  · rename_i hsome
    have := lt_of_byteAt? hsome
    rw [length_utf8] at this
    omega

/-- The bytes of a character outside ASCII are passed over. -/
theorem patternEnd?_skip {inClass : Bool} {bytes more : List UInt8}
    (hbytes : ∀ b ∈ bytes, 128 ≤ b.toNat) (h : (utf8 text).drop pos = bytes ++ more) :
    patternEnd? text inClass pos = patternEnd? text inClass (pos + bytes.length) := by
  induction bytes generalizing pos with
  | nil => rfl
  | cons b bytes ih =>
      obtain ⟨hb, hbytes⟩ := List.forall_mem_cons.1 hbytes
      have hbyte : byteAt? text pos = some (Char.ofUInt8 b) := by
        rw [byteAt?_eq, h]
        rfl
      have hne (d : Char) (hd : d.toNat < 128) : (Char.ofUInt8 b == d) = false := by
        rw [beq_eq_false_iff_ne]
        rintro rfl
        exact Nat.not_lt.2 hb hd
      have hdrop : (utf8 text).drop (pos + 1) = bytes ++ more := by
        rw [← List.drop_drop, h]
        rfl
      rw [patternEnd?_of_byteAt? hbyte, hne _ (by decide), hne _ (by decide), hne _ (by decide),
        hne _ (by decide)]
      simp only [Bool.false_eq_true, if_false, Bool.false_and]
      rw [ih hbytes hdrop, List.length_cons]
      congr 1
      omega

/-- From the second byte of a character on, the search goes on behind it. -/
theorem patternEnd?_behind {inClass : Bool} {c : Char} (h : At text pos (c :: s)) :
    patternEnd? text inClass (pos + 1) = patternEnd? text inClass (pos + c.utf8Size) := by
  obtain ⟨b, bytes, hbytes⟩ := List.exists_cons_of_ne_nil (String.utf8EncodeChar_ne_nil (c := c))
  have hlength : bytes.length + 1 = c.utf8Size := by
    rw [← String.length_utf8EncodeChar, hbytes, List.length_cons]
  have hdrop : (utf8 text).drop (pos + 1) = bytes ++ utf8 s := by
    rw [← List.drop_drop, h.drop_utf8, utf8_cons, hbytes]
    rfl
  have hhigh : ∀ b ∈ bytes, 128 ≤ b.toNat := by
    intro d hd
    rcases Nat.lt_or_ge c.toNat 128 with hc | hc
    · rw [utf8EncodeChar_of_lt hc] at hbytes
      cases hbytes
      cases hd
    · exact toNat_of_mem_utf8EncodeChar hc (hbytes ▸ List.mem_cons_of_mem _ hd)
  rw [patternEnd?_skip hhigh hdrop]
  congr 1
  omega

/-- **The source of a pattern ends at the same slash, whatever a backslash covers.** -/
theorem patternEnd?_of_at {inClass : Bool} (h : At text pos s) : patternEnd? text inClass pos =
    (scanPattern inClass s).map fun (source, _) => pos + byteLength source := by
  fun_induction scanPattern inClass s generalizing pos with
  | case1 inClass => exact patternEnd?_of_le h.length_eq.ge
  | case2 inClass c hc =>
      obtain ⟨b, hb, halike⟩ := byteAt?_of_at_cons h
      have hlength := h.length_eq
      have hsize : byteLength [c] = 1 := by
        rw [eq_of_beq hc]
        rfl
      rw [patternEnd?_of_byteAt? hb, halike.beq '\\' (by decide), if_pos hc]
      exact patternEnd?_of_le (by omega)
  | case3 inClass c hc d more ih =>
      obtain ⟨b, hb, halike⟩ := byteAt?_of_at_cons h
      have hlt : c.toNat < 128 := by
        rw [eq_of_beq hc]
        decide
      have hnext := at_succ h hlt
      -- The second byte that is skipped is the first one of the covered character.
      rw [patternEnd?_of_byteAt? hb, halike.beq '\\' (by decide), if_pos hc,
        patternEnd?_behind hnext, ih (at_behind hnext)]
      cases scanPattern inClass more with
      | none => rfl
      | some parts =>
          simp only [Option.map_some, byteLength_cons, utf8Size_of_lt hlt, Nat.add_assoc]
  | case4 inClass c rest hc hslash =>
      obtain ⟨b, hb, halike⟩ := byteAt?_of_at_cons h
      rw [patternEnd?_of_byteAt? hb, halike.beq '\\' (by decide), if_neg hc,
        halike.beq '/' (by decide), if_pos hslash]
      rfl
  | case5 inClass c rest hc hslash =>
      rename_i next ih
      obtain ⟨b, hb, halike⟩ := byteAt?_of_at_cons h
      rw [patternEnd?_of_byteAt? hb, halike.beq '\\' (by decide), if_neg hc,
        halike.beq '/' (by decide), if_neg hslash, halike.beq '[' (by decide),
        halike.beq ']' (by decide), patternEnd?_behind h, ih (at_behind h)]
      cases scanPattern next rest with
      | none => rfl
      | some parts => simp only [Option.map_some, byteLength_cons, Nat.add_assoc]

/-! ### Free text -/

theorem freeText?_of_escapedText {raw free : List Char} (h : EscapedText free raw)
    (rest : List Char) (taken : Nat) :
    freeText? taken (raw ++ ')' :: rest) = some (free, taken + byteLength raw + 1) := by
  have hbackslash : '\\'.utf8Size = 1 := rfl
  induction h generalizing taken with
  | nil =>
      rw [List.nil_append, freeText?.eq_def]
      rfl
  | @plain c text s hparen hbackslash _ ih =>
      rw [List.cons_append, freeText?.eq_def]
      simp only [beq_iff_eq, hparen, hbackslash, if_false, ih, Option.map_some, byteLength_cons,
        Nat.add_assoc]
  | @escaped c text s hc _ ih =>
      have hsize : c.utf8Size = 1 := by
        simp [isEscapable, or_assoc] at hc
        rcases hc with rfl | rfl | rfl
        all_goals rfl
      rw [List.cons_append, List.cons_append, freeText?.eq_def]
      simp [isEscapable] at hc
      simp [hc, ih, byteLength_cons, hsize, hbackslash]
      omega
  | @backslash c text s hc _ ih =>
      rw [List.cons_append, List.cons_append, freeText?.eq_def]
      simp [isEscapable] at hc
      rw [List.cons_append] at ih
      simp [hc, ih, byteLength_cons, hbackslash, Nat.add_assoc]

theorem freeText?_eq_none {taken : Nat} (h : scanText s = none) : freeText? taken s = none := by
  fun_induction scanText s generalizing taken with
  | case1 => rfl
  | case2 => cases h
  | case3 c hparen hc => rw [freeText?, if_neg hparen, if_pos hc]
  | case4 c hparen hc d more hd ih =>
      rw [freeText?, if_neg hparen, if_pos hc]
      dsimp only
      rw [if_pos hd, ih (Option.map_eq_none_iff.1 h)]
      rfl
  | case5 c hparen hc d more hd ih =>
      rw [freeText?, if_neg hparen, if_pos hc]
      dsimp only
      rw [if_neg hd, ih (Option.map_eq_none_iff.1 h)]
      rfl
  | case6 c rest hparen hc ih =>
      rw [freeText?.eq_def]
      dsimp only
      rw [if_neg hparen, if_neg hc, ih (Option.map_eq_none_iff.1 h)]
      rfl

theorem follows_readText {whole : List Char} {opening : Nat} (hopening : At text opening whole)
    (h : At text pos s) :
    Follows text (Lands text) (readText whole s) (takeText text opening pos) := by
  rw [readText, takeText, cutFrom_of_at h, ok_bind]
  split
  · rename_i hscan
    rw [freeText?_eq_none hscan]
    exact follows_fail hopening _
  · rename_i free rest hscan
    obtain ⟨raw, hraw, rfl⟩ := escapedText_of_scanText hscan
    have hbehind : At text (pos + (0 + byteLength raw + 1)) rest := by
      rw [Nat.zero_add]
      exact at_succ h.behind (by decide)
    rw [freeText?_of_escapedText hraw]
    dsimp only
    rw [moveTo_of_at hbehind]
    exact .ok ⟨rfl, hbehind⟩

theorem follows_readClose {whole : List Char} {opening : Nat} (hopening : At text opening whole)
    (h : At text pos s) :
    Follows text (fun r next => At text next r.rest) (readClose whole s)
      (takeClose text opening pos) := by
  rw [takeClose]
  match s with
  | [] =>
      rw [byteAt?_of_at_nil h]
      exact follows_fail hopening _
  | c :: rest =>
      obtain ⟨b, hb, halike⟩ := byteAt?_of_at_cons h
      rw [hb, readClose]
      dsimp only
      rw [halike.beq ')' (by decide)]
      by_cases hc : c = ')'
      · subst hc
        have hbehind := at_succ h (by decide)
        rw [moveTo_of_at hbehind]
        exact .ok hbehind
      · rw [if_neg (mt eq_of_beq hc), if_neg (mt eq_of_beq hc), charAt_of_at h]
        exact follows_fail h _

theorem map_readSource? (s : List Char) :
    (readSource? s).map (fun r => (r.value, r.rest)) = scanPattern false s := by
  rw [readSource?]
  split
  · rename_i hscan
    exact hscan.symm
  · rename_i hscan
    exact hscan.symm

theorem follows_readPattern (h : At text pos s) :
    Follows text (Lands text) (readPattern s) (takePattern text pos) := by
  rw [takePattern]
  by_cases hopen : ∃ body, s = '/' :: body
  · rw [if_pos ((byteAt?_beq_iff h (by decide)).2 hopen)]
    obtain ⟨body, rfl⟩ := hopen
    have hbody := at_succ h (by decide)
    rw [patternEnd?_of_at hbody, readPattern]
    cases hsource : readSource? body with
    | none =>
        rw [← map_readSource?, hsource]
        exact follows_fail h _
    | some source =>
        rw [← map_readSource?, hsource]
        dsimp only [Option.map_some]
        rw [(sourceText_of_scanPattern (scanPattern_of_readSource? hsource)).2] at hbody
        have hletters := at_succ hbody.behind (by decide)
        rw [cut_of_at hbody, ok_bind, cut_run hletters isAsciiTest_isAlpha, ok_bind]
        split
        · exact follows_fail h _
        · have hbehind := at_runEnd hletters isAsciiTest_isAlpha
          dsimp only [Reading.run, Reading.andThen]
          cases Pattern.read (String.ofList source.value)
              (String.ofList (source.rest.takeWhile Char.isAlpha)) with
          | error fault => exact follows_fail h _
          | ok p =>
              dsimp only
              rw [moveTo_of_at hbehind]
              exact .ok ⟨rfl, hbehind⟩
  · rw [if_neg (mt (byteAt?_beq_iff h (by decide)).1 hopen), readPattern]
    · exact follows_fail h _
    · exact fun body hs => hopen ⟨body, hs⟩

/-! ### Arguments and spells -/

theorem follows_readArgument (kind : Kind) (h : At text pos ('(' :: s)) :
    Follows text (Lands text) (readArgument kind ('(' :: s) s) (takeArgument text kind pos) := by
  have hbody := at_succ h (by decide)
  rw [readArgument, takeArgument, moveTo_of_at hbody, ok_bind]
  generalize kind.shape = shape
  split
  · obtain ⟨start, hstart, hpattern⟩ := skipInline_of_at hbody
    dsimp only
    rw [hstart, ok_bind]
    refine (follows_readPattern hpattern).bind (fun _ hp => by rw [hp]) fun p taken hp hlands => ?_
    obtain ⟨behind, hbehind, hblanks⟩ := skipInline_of_at hlands.2
    rw [hp, hbehind, ok_bind]
    dsimp only
    generalize hread : ((skippedInline s).andThen p).andThen (skippedInline p.rest) = start'
    have hclose : At text behind start'.rest := hread ▸ hblanks
    refine (follows_readClose h hclose).bind (fun _ hc => by rw [hc]) fun close next hc hnext => ?_
    rw [hc]
    exact .ok ⟨congrArg Argument.pattern hlands.1, hnext⟩
  · dsimp only
    refine (follows_readText h hbody).bind (fun _ ht => by rw [ht]) fun t taken ht hlands => ?_
    rw [ht, hlands.1]
    dsimp only
    split
    · exact follows_fail h _
    · exact .ok ⟨rfl, hlands.2⟩
  · simp only
    rw [find_of_at hbody (by decide), ok_bind]
    cases htext : readUpTo? ')' s with
    | none =>
        rw [← map_readUpTo?, htext]
        exact follows_fail h _
    | some body =>
        have hend : At text (pos + 1) (body.value ++ ')' :: body.rest) := by
          rwa [← eq_of_readUpTo? htext]
        have hbehind := at_succ hend.behind (by decide)
        rw [← map_readUpTo?, htext]
        dsimp only [Option.map_some]
        rw [cut_of_at hend, ok_bind]
        split
        · exact follows_fail h _
        · cases parseArgument shape (trimList body.value) with
          | error fault => exact follows_fail hbody _
          | ok argument =>
              dsimp only
              rw [moveTo_of_at hbehind]
              exact .ok ⟨rfl, hbehind⟩

theorem follows_readArgument? (kind : Kind) {whole : List Char} {start : Nat}
    (hstart : At text start whole) (h : At text pos s) :
    Follows text (Lands text) (readArgument? kind whole s)
      (takeArgument? text kind start pos) := by
  rw [takeArgument?]
  by_cases hopen : ∃ rest, s = '(' :: rest
  · rw [if_pos ((byteAt?_beq_iff h (by decide)).2 hopen)]
    obtain ⟨rest, rfl⟩ := hopen
    rw [readArgument?]
    split
    · exact follows_fail h _
    · exact (follows_readArgument kind h).map fun r taken hlands =>
        ⟨congrArg some hlands.1, hlands.2⟩
  · rw [if_neg (mt (byteAt?_beq_iff h (by decide)).1 hopen), readArgument?]
    · split
      · exact follows_fail hstart _
      · exact .ok ⟨rfl, h⟩
    · exact fun rest hs => hopen ⟨rest, hs⟩

/-- **A spell is read by offsets as it is read**, and no check fails. -/
theorem follows_readSpell (h : At text pos ('#' :: s)) :
    Follows text (Lands text) (readSpell ('#' :: s) s) (takeSpell text pos) := by
  have hword := at_succ h (by decide)
  have hbehind : At text _ (readWord s).rest := at_runEnd hword isAsciiTest_isAlphanum
  have hcut : cut text (pos + 1) (runEnd Char.isAlphanum text (pos + 1)) =
      .ok (readWord s).value := cut_run hword isAsciiTest_isAlphanum
  rw [readSpell, takeSpell, hcut, ok_bind]
  split
  · exact follows_fail h _
  · cases Kind.ofWord? (String.ofList (readWord s).value) with
    | none => exact follows_fail h _
    | some kind =>
        dsimp only
        rw [moveTo_of_at hbehind, ok_bind]
        refine (follows_readScope? hbehind).bind (fun _ hs => by rw [hs])
          fun scope taken hs hscope => ?_
        rw [hs]
        dsimp only
        refine (follows_readArgument? kind h hscope.2).bind (fun _ ha => by rw [ha])
          fun argument taken' ha hargument => ?_
        rw [ha, hscope.1, hargument.1]
        exact .ok ⟨rfl, hargument.2⟩

end

end PostFilter.Document.Cursor
