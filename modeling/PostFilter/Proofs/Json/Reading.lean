import PostFilter.Json.Reader
import PostFilter.Json.Shape
import PostFilter.Proofs.Text.Numeral
import PostFilter.Proofs.Text.Readings

/-!
# JSON — values are read as they are written

Every reader is run on the written form of a plain value with some text behind it, gives the value
and leaves that text. A number goes on as long as it can, so what stands behind a value must not go
on with a number (`isNumberChar`); behind an item or a field there is a comma or what closes the
array or object.

* `parse?_text` — reading the text of a plain value gives the value.
-/

namespace PostFilter.Json

open Text

/-- Whether a reader gives a value and leaves a rest. -/
def ReadsAs {α : Type} {s : List Char} (result : Option (Reading α s)) (value : α)
    (rest : List Char) : Prop :=
  ∃ r, result = some r ∧ r.value = value ∧ r.rest = rest

/-! ### Strings -/

section Strings

variable {s rest : List Char} {cs : List (Option Char)}

theorem readStringChars?_quote (rest : List Char) :
    ReadsAs (readStringChars? ('"' :: rest)) [] rest := by
  rw [readStringChars?.eq_def]
  exact ⟨_, rfl, rfl, rfl⟩

theorem readStringChars?_letter {d e : Char} (hd : (d == 'u') = false)
    (he : letterEscape? d = some e) (h : ReadsAs (readStringChars? s) cs rest) :
    ReadsAs (readStringChars? ('\\' :: d :: s)) (some e :: cs) rest := by
  obtain ⟨r, hr, rfl, rfl⟩ := h
  rw [readStringChars?.eq_def]
  simp only [hd, he, hr]
  exact ⟨_, rfl, rfl, rfl⟩

theorem readStringChars?_plain {c : Char} (hquote : (c == '"') = false)
    (hslash : (c == '\\') = false) (hcontrol : ¬ c.toNat < 32)
    (h : ReadsAs (readStringChars? s) cs rest) :
    ReadsAs (readStringChars? (c :: s)) (some c :: cs) rest := by
  obtain ⟨r, hr, rfl, rfl⟩ := h
  rw [readStringChars?.eq_def]
  simp only [hquote, hslash, hcontrol, hr]
  exact ⟨_, rfl, rfl, rfl⟩

theorem readCode?_hexDigits {n : Nat} (hn : n < 65536) (s : List Char) :
    ReadsAs (readCode? (hexDigits 4 n ++ s)) n s := by
  have hvalue := valueOf_hexDigits 4 n
  have hall : (hexDigits 4 n).all isHexDigit = true :=
    List.all_eq_true.2 fun _ hc => isHexDigit_of_mem_hexDigits hc
  match hexDigits 4 n, length_hexDigits 4 n, hvalue, hall with
  | [a, b, c, d], _, hvalue, hall =>
      refine ⟨_, if_pos hall, ?_, rfl⟩
      exact hvalue.trans (Nat.mod_eq_of_lt hn)

theorem readUnicode?_hexDigits {n : Nat} (hn : n < 0xD800) (s : List Char) :
    ReadsAs (readUnicode? (hexDigits 4 n ++ s)) (some (Char.ofNat n)) s := by
  obtain ⟨r, hr, hvalue, hleft⟩ := readCode?_hexDigits (n := n) (by omega) s
  rw [readUnicode?]
  simp only [hr, hvalue, hn]
  exact ⟨_, rfl, by simp [Reading.map, hvalue], hleft⟩

theorem readStringChars?_code {c : Char} (hc : c.toNat < 0xD800)
    (h : ReadsAs (readStringChars? s) cs rest) :
    ReadsAs (readStringChars? ('\\' :: 'u' :: (hexDigits 4 c.toNat ++ s))) (some c :: cs) rest := by
  obtain ⟨code, hcode, hvalue, hleft⟩ := readUnicode?_hexDigits hc s
  rw [← hleft] at h
  obtain ⟨r, hr, rfl, rfl⟩ := h
  rw [Char.ofNat_toNat] at hvalue
  rw [readStringChars?.eq_def]
  simp only [hcode, hr]
  exact ⟨_, rfl, by simp [Reading.past, Reading.map, Reading.andThen, hvalue], rfl⟩

theorem escapeChar_control : ∀ n < 32,
    (['b', 't', 'n', 'f', 'r'].any fun d => escapeChar (Char.ofNat n) == ['\\', d] && d != 'u' &&
      letterEscape? d == some (Char.ofNat n)) = true ∨
    escapeChar (Char.ofNat n) = '\\' :: 'u' :: hexDigits 4 n := by decide

/-- A character is escaped by a letter, by its code, or not at all. -/
theorem escapeChar_cases (c : Char) :
    (∃ d, escapeChar c = ['\\', d] ∧ (d == 'u') = false ∧ letterEscape? d = some c) ∨
    (escapeChar c = '\\' :: 'u' :: hexDigits 4 c.toNat ∧ c.toNat < 32) ∨
    (escapeChar c = [c] ∧ (c == '"') = false ∧ (c == '\\') = false ∧ ¬ c.toNat < 32) := by
  by_cases hcontrol : c.toNat < 32
  · have hcases := escapeChar_control c.toNat hcontrol
    rw [Char.ofNat_toNat] at hcases
    rcases hcases with hany | he
    · obtain ⟨d, -, hd⟩ := List.any_eq_true.1 hany
      rw [Bool.and_eq_true, Bool.and_eq_true, beq_iff_eq, beq_iff_eq, bne, Bool.not_eq_true'] at hd
      exact Or.inl ⟨d, hd.1.1, hd.1.2, hd.2⟩
    · exact Or.inr (Or.inl ⟨he, hcontrol⟩)
  · rw [escapeChar]
    split
    · rename_i hc
      rw [beq_iff_eq.1 hc]
      exact Or.inl ⟨'"', rfl, rfl, rfl⟩
    · rename_i hquote
      split
      · rename_i hc
        rw [beq_iff_eq.1 hc]
        exact Or.inl ⟨'\\', rfl, rfl, rfl⟩
      · rename_i hslash
        exact Or.inr (Or.inr ⟨rfl, Bool.not_eq_true _ ▸ hquote, Bool.not_eq_true _ ▸ hslash,
          hcontrol⟩)

/-- A character is read as it is escaped. -/
theorem readStringChars?_escapeChar (c : Char) (h : ReadsAs (readStringChars? s) cs rest) :
    ReadsAs (readStringChars? (escapeChar c ++ s)) (some c :: cs) rest := by
  rcases escapeChar_cases c with ⟨d, he, hd, hletter⟩ | ⟨he, hcode⟩ | ⟨he, hquote, hslash, hplain⟩
  · rw [he]
    exact readStringChars?_letter hd hletter h
  · rw [he]
    exact readStringChars?_code (Nat.lt_trans hcode (by decide)) h
  · rw [he]
    exact readStringChars?_plain hquote hslash hplain h

theorem readStringChars?_escaped (rest : List Char) : ∀ cs : List Char,
    ReadsAs (readStringChars? (cs.flatMap escapeChar ++ '"' :: rest)) (cs.map some) rest
  | [] => readStringChars?_quote rest
  | c :: cs => by
      rw [List.flatMap_cons, List.append_assoc]
      exact readStringChars?_escapeChar c (readStringChars?_escaped rest cs)

theorem readable?_map_some (cs : List Char) :
    readable? (cs.map some) = some (String.ofList cs) := by
  have hmap : (cs.map some).mapM id = some cs := by
    induction cs with
    | nil => rfl
    | cons c cs ih => simp [ih]
  rw [readable?, hmap]
  rfl

/-- A string is read as it is quoted. -/
theorem readString?_quote (text : String) (rest : List Char) :
    ReadsAs (readString? (text.toList.flatMap escapeChar ++ '"' :: rest)) (some text) rest := by
  obtain ⟨r, hr, hvalue, hleft⟩ := readStringChars?_escaped rest text.toList
  rw [readString?, hr]
  refine ⟨_, rfl, ?_, hleft⟩
  change readable? r.value = some text
  rw [hvalue, readable?_map_some, String.ofList_toList]

end Strings

/-! ### Numbers -/

/-- Characters with which a number could go on. -/
def isNumberChar (c : Char) : Bool := isDigit c || c == '.' || c == 'e' || c == 'E'

section Numbers

variable {rest : List Char}

theorem readDigits?_digits (n : Nat) (h : Stops isDigit rest) :
    ReadsAs (readDigits? (decimalDigits n ++ rest)) (decimalDigits n) rest := by
  have hdigits : ∀ c ∈ decimalDigits n, isDigit c = true := fun _ => isDigit_of_mem_decimalDigits
  have htake := takeWhile_append_of_stops h hdigits
  have hne : (decimalDigits n).isEmpty = false := by
    rw [List.isEmpty_eq_false_iff]
    exact decimalDigits_ne_nil n
  rw [readDigits?]
  simp only [htake, hne]
  exact ⟨_, rfl, rfl, dropWhile_append_of_stops h hdigits⟩

theorem readWhole?_digits (n : Nat) (h : Stops isDigit rest) :
    ReadsAs (readWhole? (decimalDigits n ++ rest)) (decimalDigits n) rest := by
  obtain ⟨r, hr, hvalue, hleft⟩ := readDigits?_digits n h
  have hzero : ((decimalDigits n).length == 1 || (decimalDigits n).head? != some '0') = true := by
    rcases Nat.eq_zero_or_pos n with rfl | hn
    · rw [decimalDigits]
      rfl
    · rw [bne_iff_ne.2 (head?_decimalDigits hn), Bool.or_true]
  rw [readWhole?, hr]
  exact ⟨r, Option.filter_some_pos (by rw [hvalue, hzero]), hvalue, hleft⟩

theorem readFraction?_stay (h : Stops (· == '.') rest) :
    readFraction? rest = some (.stay [] rest) := by
  rw [readFraction?.eq_def]
  split
  · exact absurd (h _ rfl) (by decide)
  · rfl

theorem readExponent?_stay (h : Stops (fun c => c == 'e' || c == 'E') rest) :
    readExponent? rest = some (.stay [] rest) := by
  match rest, h with
  | [], _ => rfl
  | e :: more, h =>
      have he : (e == 'e' || e == 'E') = false := h e rfl
      rw [readExponent?.eq_def]
      simp only [he]
      rfl

/-- A number is read as it is written. -/
theorem readNumber?_digits (n : Nat) (h : Stops isNumberChar rest) :
    ReadsAs (readNumber? (decimalDigits n ++ rest)) (decimalDigits n) rest := by
  simp only [isNumberChar, Stops, Bool.or_eq_false_iff] at h
  have hminus : (Reading.stay () (decimalDigits n ++ rest)).sign? '-' = none := by
    refine sign?_eq_none fun c hc => ?_
    change c ∈ (decimalDigits n ++ rest).head? at hc
    obtain ⟨d, more, hd, hdigit⟩ := decimalDigits_eq_cons n
    rw [hd] at hc
    cases hc
    exact beq_eq_false_iff_ne.2 fun he => by rw [he] at hdigit; cases hdigit
  obtain ⟨whole, hwhole, hvalue, hleft⟩ := readWhole?_digits n fun c hc => (h c hc).1.1.1
  have hfraction : readFraction? whole.rest = some (.stay [] whole.rest) :=
    readFraction?_stay fun c hc => (h c (hleft ▸ hc)).1.1.2
  have hexponent : readExponent? whole.rest = some (.stay [] whole.rest) :=
    readExponent?_stay fun c hc => Bool.or_eq_false_iff.2
      ⟨(h c (hleft ▸ hc)).1.2, (h c (hleft ▸ hc)).2⟩
  unfold readNumber?
  dsimp only
  rw [hminus]
  dsimp only [Option.getD_none, rest_stay]
  rw [hwhole]
  dsimp only [Option.bind_eq_bind, Option.bind_some]
  rw [hfraction]
  dsimp only [Option.bind_some, rest_stay]
  rw [hexponent]
  refine ⟨_, rfl, ?_, hleft⟩
  change [] ++ whole.value ++ [] ++ [] = decimalDigits n
  rw [List.append_nil, List.append_nil, List.nil_append, hvalue]

end Numbers

/-! ### One value -/

section Values

variable {s t rest : List Char}

theorem rest_skipped (h : Stops isBlank s) : (skipped s).rest = s := dropWhile_eq_self h

theorem readValue?_scalar {c : Char} {v : Json} (hc : isBlank c = false)
    (harray : (c == '[') = false) (hobject : (c == '{') = false)
    (h : ReadsAs (readScalar? (c :: s)) v rest) : ReadsAs (readValue? (c :: s)) v rest := by
  have hskip : (skipped (c :: s)).rest = c :: s := rest_skipped (stops_cons hc)
  obtain ⟨t, ht, hvalue, -⟩ := take?_of_rest_cons hskip
  change skip (c :: s) = c :: s at hskip
  rw [← hskip] at h
  obtain ⟨r, hr, rfl, rfl⟩ := h
  rw [readValue?]
  simp only [ht, hvalue, harray, hobject, hr]
  exact ⟨_, rfl, rfl, rfl⟩

/-- An opening sign is taken, and what is behind it decides. -/
theorem take?_opening {c : Char} (hc : isBlank c = false) (s : List Char) :
    ∃ t, (skipped (c :: s)).take? = some t ∧ t.value = c ∧
      (t.toReading.andThen (skipped t.rest)).rest = skip s ∧ t.rest = s := by
  have hskip : (skipped (c :: s)).rest = c :: s := rest_skipped (stops_cons hc)
  obtain ⟨t, ht, hvalue, hleft⟩ := take?_of_rest_cons hskip
  exact ⟨t, ht, hvalue, congrArg skip hleft, hleft⟩

theorem readValue?_array_nil (rest : List Char) :
    ReadsAs (readValue? ('[' :: ']' :: rest)) (.array []) rest := by
  obtain ⟨t, ht, hvalue, hbehind, -⟩ := take?_opening (c := '[') rfl (']' :: rest)
  change _ = ']' :: rest at hbehind
  obtain ⟨close, hclose, hleft⟩ := sign?_of_rest_cons hbehind
  rw [readValue?]
  simp only [ht, hvalue, hclose]
  exact ⟨_, rfl, rfl, hleft⟩

theorem readValue?_object_nil (rest : List Char) :
    ReadsAs (readValue? ('{' :: '}' :: rest)) (.object []) rest := by
  obtain ⟨t, ht, hvalue, hbehind, -⟩ := take?_opening (c := '{') rfl ('}' :: rest)
  change _ = '}' :: rest at hbehind
  obtain ⟨close, hclose, hleft⟩ := sign?_of_rest_cons hbehind
  rw [readValue?]
  simp only [ht, hvalue, hclose]
  exact ⟨_, rfl, rfl, hleft⟩

theorem readValue?_array {items : List Json} (hblank : Stops isBlank s)
    (hclose : Stops (· == ']') s) (h : ReadsAs (readItems? s) items rest) :
    ReadsAs (readValue? ('[' :: s)) (.array items) rest := by
  obtain ⟨t, ht, hvalue, hbehind, hleft⟩ := take?_opening (c := '[') rfl s
  have hsign : (t.toReading.andThen (skipped t.rest)).sign? ']' = none :=
    sign?_eq_none (by rw [hbehind, skip, dropWhile_eq_self hblank]; exact hclose)
  rw [← hleft] at h
  obtain ⟨r, hr, rfl, rfl⟩ := h
  rw [readValue?]
  simp only [ht, hvalue, hsign, hr]
  exact ⟨_, rfl, rfl, rfl⟩

theorem readValue?_object {fields : List (Option String × Json)} (hblank : Stops isBlank s)
    (hclose : Stops (· == '}') s) (h : ReadsAs (readFields? s) fields rest) :
    ReadsAs (readValue? ('{' :: s)) (.object fields) rest := by
  obtain ⟨t, ht, hvalue, hbehind, hleft⟩ := take?_opening (c := '{') rfl s
  have hsign : (t.toReading.andThen (skipped t.rest)).sign? '}' = none :=
    sign?_eq_none (by rw [hbehind, skip, dropWhile_eq_self hblank]; exact hclose)
  rw [← hleft] at h
  obtain ⟨r, hr, rfl, rfl⟩ := h
  rw [readValue?]
  simp only [ht, hvalue, hsign, hr]
  exact ⟨_, rfl, rfl, rfl⟩

theorem rest_andThen_skipped {α : Type} {r : Reading α s} {c : Char} (hc : isBlank c = false)
    (h : r.rest = c :: rest) : (r.andThen (skipped r.rest)).rest = c :: rest := by
  change skip r.rest = c :: rest
  rw [h]
  exact rest_skipped (stops_cons hc)

theorem readItems?_last {v : Json} (h : ReadsAs (readValue? s) v (']' :: rest)) :
    ReadsAs (readItems? s) [v] rest := by
  obtain ⟨item, hitem, rfl, hleft⟩ := h
  obtain ⟨close, hclose, hvalue, rfl⟩ := take?_of_rest_cons (rest_andThen_skipped rfl hleft)
  rw [readItems?]
  simp only [hitem, hclose, hvalue]
  exact ⟨_, rfl, rfl, rfl⟩

theorem readItems?_cons {v : Json} {vs : List Json} (h : ReadsAs (readValue? s) v (',' :: t))
    (hmore : ReadsAs (readItems? t) vs rest) : ReadsAs (readItems? s) (v :: vs) rest := by
  obtain ⟨item, hitem, rfl, hleft⟩ := h
  obtain ⟨comma, hcomma, hvalue, rfl⟩ := take?_of_rest_cons (rest_andThen_skipped rfl hleft)
  obtain ⟨r, hr, rfl, rfl⟩ := hmore
  rw [readItems?]
  simp only [hitem, hcomma, hvalue, hr]
  exact ⟨_, rfl, rfl, rfl⟩

/-- One field is read, and the sign behind it decides. -/
theorem readFields?_field {key : Option String} {v : Json}
    (hkey : ReadsAs (readString? s) key (':' :: t)) (h : ReadsAs (readValue? t) v rest) :
    ∃ r : Reading Json ('"' :: s), r.rest = rest ∧
      readFields? ('"' :: s) =
        match (r.andThen (skipped r.rest)).take? with
        | none => none
        | some c =>
          if c.value == '}' then some (c.toReading.map fun _ => [(key, v)])
          else if c.value == ',' then
            (readFields? c.rest).map fun r => c.toReading.andThen (r.map ((key, v) :: ·))
          else none := by
  obtain ⟨quote, hquote, hname⟩ : ∃ q, (skipped ('"' :: s)).sign? '"' = some q ∧ q.rest = s :=
    sign?_of_rest_cons (rest_skipped (stops_cons rfl))
  rw [← hname] at hkey
  obtain ⟨name, hname, rfl, hleft⟩ := hkey
  obtain ⟨colon, hcolon, rfl⟩ := sign?_of_rest_cons
    (rest_andThen_skipped (r := quote.andThen name) rfl hleft)
  obtain ⟨value, hvalue, rfl, rfl⟩ := h
  refine ⟨colon.andThen value, rfl, ?_⟩
  rw [readFields?]
  simp only [hquote, hname, hcolon, hvalue]
  cases ((colon.andThen value).andThen (skipped (colon.andThen value).rest)).take? <;> rfl

theorem readFields?_last {key : Option String} {v : Json}
    (hkey : ReadsAs (readString? s) key (':' :: t))
    (h : ReadsAs (readValue? t) v ('}' :: rest)) :
    ReadsAs (readFields? ('"' :: s)) [(key, v)] rest := by
  obtain ⟨field, hleft, hfields⟩ := readFields?_field hkey h
  obtain ⟨close, hclose, hvalue, rfl⟩ := take?_of_rest_cons (rest_andThen_skipped rfl hleft)
  rw [hfields]
  simp only [hclose, hvalue]
  exact ⟨_, rfl, rfl, rfl⟩

theorem readFields?_cons {u : List Char} {key : Option String} {v : Json}
    {fields : List (Option String × Json)} (hkey : ReadsAs (readString? s) key (':' :: t))
    (h : ReadsAs (readValue? t) v (',' :: u)) (hmore : ReadsAs (readFields? u) fields rest) :
    ReadsAs (readFields? ('"' :: s)) ((key, v) :: fields) rest := by
  obtain ⟨field, hleft, hfields⟩ := readFields?_field hkey h
  obtain ⟨comma, hcomma, hvalue, rfl⟩ := take?_of_rest_cons (rest_andThen_skipped rfl hleft)
  obtain ⟨r, hr, rfl, rfl⟩ := hmore
  rw [hfields]
  simp only [hcomma, hvalue, hr]
  exact ⟨_, rfl, rfl, rfl⟩

end Values

/-! ### Values -/

theorem toList_quote_append (text : String) (rest : List Char) :
    quote text ++ rest = '"' :: (text.toList.flatMap escapeChar ++ '"' :: rest) := by
  rw [quote, List.cons_append, List.append_assoc, List.singleton_append]

theorem readScalar?_quote (text : String) (rest : List Char) :
    ReadsAs (readScalar? (quote text ++ rest)) (.string (some text)) rest := by
  obtain ⟨r, hr, hvalue, hleft⟩ := readString?_quote text rest
  rw [toList_quote_append, readScalar?, hr]
  exact ⟨_, rfl, congrArg Json.string hvalue, hleft⟩

theorem beq_eq_false_of_isDigit {c d : Char} (hc : isDigit c = true) (hd : isDigit d = false) :
    (c == d) = false :=
  beq_eq_false_iff_ne.2 fun he => by rw [he, hd] at hc; cases hc

theorem isBlank_eq_false_of_isDigit {c : Char} (hc : isDigit c = true) : isBlank c = false := by
  simp only [isBlank, beq_eq_false_of_isDigit hc (d := ' ') rfl,
    beq_eq_false_of_isDigit hc (d := '\n') rfl, beq_eq_false_of_isDigit hc (d := '\t') rfl,
    beq_eq_false_of_isDigit hc (d := '\r') rfl, Bool.or_self]

section Plain

variable {rest : List Char}

theorem readScalar?_digit {c : Char} {s : List Char} (hc : isDigit c = true) :
    readScalar? (c :: s) = (readNumber? (c :: s)).map fun r => r.map .number := by
  simp only [readScalar?, beq_eq_false_of_isDigit hc (d := 'n') rfl,
    beq_eq_false_of_isDigit hc (d := 't') rfl, beq_eq_false_of_isDigit hc (d := 'f') rfl,
    beq_eq_false_of_isDigit hc (d := '"') rfl]
  rfl

theorem readValue?_number (n : Nat) (h : Stops isNumberChar rest) :
    ReadsAs (readValue? (decimalDigits n ++ rest)) (.number (decimalDigits n)) rest := by
  have hnumber := readNumber?_digits n h
  obtain ⟨c, s, hdigits, hc⟩ := decimalDigits_eq_cons n
  rw [hdigits, List.cons_append] at hnumber ⊢
  obtain ⟨r, hr, hvalue, hleft⟩ := hnumber
  refine readValue?_scalar (isBlank_eq_false_of_isDigit hc) (beq_eq_false_of_isDigit hc rfl)
    (beq_eq_false_of_isDigit hc rfl) ?_
  rw [readScalar?_digit hc, hr]
  exact ⟨_, rfl, congrArg Json.number hvalue, hleft⟩

/-- What a plain value begins with. -/
theorem chars_eq_cons : ∀ {v : Json}, v.IsPlain →
    ∃ c s, v.chars = c :: s ∧ isBlank c = false ∧ (c == ']') = false
  | .null, _ => ⟨_, _, rfl, rfl, rfl⟩
  | .bool true, _ => ⟨_, _, rfl, rfl, rfl⟩
  | .bool false, _ => ⟨_, _, rfl, rfl, rfl⟩
  | .number _, ⟨n, rfl⟩ => by
      obtain ⟨c, s, hdigits, hc⟩ := decimalDigits_eq_cons n
      exact ⟨c, s, hdigits, isBlank_eq_false_of_isDigit hc, beq_eq_false_of_isDigit hc rfl⟩
  | .string (some text), _ => ⟨_, _, rfl, rfl, rfl⟩
  | .array _, _ => ⟨_, _, rfl, rfl, rfl⟩
  | .object _, _ => ⟨_, _, rfl, rfl, rfl⟩

theorem itemChars_eq_cons {item : Json} (items : List Json) (h : item.IsPlain) :
    ∃ c s, itemChars (item :: items) = c :: s ∧ isBlank c = false ∧ (c == ']') = false := by
  obtain ⟨c, s, hchars, hc⟩ := chars_eq_cons h
  cases items with
  | nil => exact ⟨c, s ++ [']'], by rw [itemChars, hchars, List.cons_append], hc⟩
  | cons next items =>
      exact ⟨c, s ++ ',' :: itemChars (next :: items),
        by rw [itemChars, hchars, List.cons_append], hc⟩

theorem fieldChars_eq_cons (key : String) (value : Json) (fields : List (Option String × Json)) :
    ∃ s, fieldChars ((some key, value) :: fields) = '"' :: s := by
  cases fields with
  | nil => exact ⟨_, rfl⟩
  | cons next fields => exact ⟨_, rfl⟩

mutual

/-- A plain value is read as it is written. -/
theorem readValue?_chars {rest : List Char} : ∀ {v : Json}, v.IsPlain → Stops isNumberChar rest →
    ReadsAs (readValue? (v.chars ++ rest)) v rest
  | .null, _, _ => readValue?_scalar rfl rfl rfl ⟨_, rfl, rfl, rfl⟩
  | .bool true, _, _ => readValue?_scalar rfl rfl rfl ⟨_, rfl, rfl, rfl⟩
  | .bool false, _, _ => readValue?_scalar rfl rfl rfl ⟨_, rfl, rfl, rfl⟩
  | .number _, ⟨n, rfl⟩, hrest => readValue?_number n hrest
  | .string (some text), _, _ => readValue?_scalar rfl rfl rfl (readScalar?_quote text rest)
  | .array [], _, _ => readValue?_array_nil rest
  | .array (item :: items), h, _ => by
      obtain ⟨c, s, hchars, hblank, hclose⟩ := itemChars_eq_cons items h.1
      have hitems := readItems?_chars rest (List.cons_ne_nil _ _) h
      rw [hchars] at hitems
      rw [chars, hchars]
      exact readValue?_array (stops_cons hblank) (stops_cons hclose) hitems
  | .object [], _, _ => readValue?_object_nil rest
  | .object ((some key, value) :: fields), h, _ => by
      have hplain : FieldsPlain ((some key, value) :: fields) := h
      have hfields := readFields?_chars rest (List.cons_ne_nil _ _) hplain
      obtain ⟨s, hchars⟩ := fieldChars_eq_cons key value fields
      rw [hchars] at hfields
      rw [chars, hchars]
      exact readValue?_object (stops_cons rfl) (stops_cons rfl) hfields

/-- Plain items are read as they are written. -/
theorem readItems?_chars (rest : List Char) : ∀ {items : List Json}, items ≠ [] →
    ItemsPlain items → ReadsAs (readItems? (itemChars items ++ rest)) items rest
  | [item], _, h => by
      rw [itemChars, List.append_assoc]
      exact readItems?_last (readValue?_chars h.1 (stops_cons rfl))
  | item :: next :: items, _, h => by
      rw [itemChars, List.append_assoc]
      exact readItems?_cons (readValue?_chars h.1 (stops_cons rfl))
        (readItems?_chars rest (List.cons_ne_nil _ _) h.2)

/-- Plain fields are read as they are written. -/
theorem readFields?_chars (rest : List Char) : ∀ {fields : List (Option String × Json)},
    fields ≠ [] → FieldsPlain fields →
    ReadsAs (readFields? (fieldChars fields ++ rest)) fields rest
  | [(some key, value)], _, h => by
      rw [fieldChars, quote?, List.append_assoc, toList_quote_append, List.cons_append,
        List.append_assoc]
      exact readFields?_last (readString?_quote key _) (readValue?_chars h.2.1 (stops_cons rfl))
  | (some key, value) :: next :: fields, _, h => by
      rw [fieldChars, quote?, List.append_assoc, toList_quote_append, List.cons_append,
        List.append_assoc]
      exact readFields?_cons (readString?_quote key _) (readValue?_chars h.2.1 (stops_cons rfl))
        (readFields?_chars rest (List.cons_ne_nil _ _) h.2.2)

end

end Plain

/-- **Reading the text of a plain value gives the value.** -/
theorem parse?_text {v : Json} (h : v.IsPlain) : parse? v.text = some v := by
  have hread := readValue?_chars h stops_nil
  rw [List.append_nil, ← String.toList_ofList (l := v.chars)] at hread
  obtain ⟨r, hr, hvalue, hleft⟩ := hread
  rw [parse?, text, hr]
  simp only [hleft, hvalue]
  rfl

end PostFilter.Json
