import PostFilter.Proofs.Text.Trimming
import PostFilter.Text.Bytes

/-!
# Text — offsets and what stands at them

`At text offset rest` says that the offset is a boundary of the text and that `rest` is what stands
from there on; cutting a text is a matter of such offsets (`splitBytes?_eq_some_iff`), and the
boundaries are those of the library (`isBoundary_iff_isValid`).

A byte below 128 is a whole character and every byte of a character outside ASCII is 128 or more. So
a test that does not tell such characters apart gives the same answer for a character and for each
of its bytes (`IsAsciiTest.of_mem`), and what is looked for byte by byte is found where it is found
character by character (`runEnd_of_at`, `findByte?_of_at`).
-/

namespace PostFilter.Text

/-! ### Lengths -/

theorem foldl_utf8Size (s : List Char) (n : Nat) :
    s.foldl (fun n c => n + c.utf8Size) n = n + byteLength s := by
  induction s generalizing n with
  | nil => rfl
  | cons c s ih => rw [byteLength, List.foldl_cons, List.foldl_cons, ih, ih]; omega

theorem byteLength_append (s t : List Char) :
    byteLength (s ++ t) = byteLength s + byteLength t := by
  rw [byteLength, List.foldl_append, foldl_utf8Size]
  rfl

theorem byteLength_cons (c : Char) (s : List Char) :
    byteLength (c :: s) = c.utf8Size + byteLength s := by
  rw [byteLength, List.foldl_cons, foldl_utf8Size, Nat.zero_add]

theorem byteLength_pos {s : List Char} (h : s ≠ []) : 0 < byteLength s := by
  obtain ⟨c, s, rfl⟩ := List.exists_cons_of_ne_nil h
  have := c.utf8Size_pos
  rw [byteLength_cons]
  omega

theorem utf8_cons (c : Char) (s : List Char) : utf8 (c :: s) = String.utf8EncodeChar c ++ utf8 s :=
  List.flatMap_cons

theorem utf8_append (s t : List Char) : utf8 (s ++ t) = utf8 s ++ utf8 t := List.flatMap_append

theorem length_utf8 (s : List Char) : (utf8 s).length = byteLength s := by
  induction s with
  | nil => rfl
  | cons c s ih =>
      rw [utf8_cons, List.length_append, String.length_utf8EncodeChar, ih, byteLength_cons]

theorem utf8ByteSize_ofList (s : List Char) : (String.ofList s).utf8ByteSize = byteLength s := by
  rw [← String.size_toByteArray, String.toByteArray_ofList, List.utf8Encode,
    List.size_toByteArray]
  exact length_utf8 s

/-! ### Boundaries -/

theorem splitBytes?_eq_some_iff {n : Nat} {s a b : List Char} :
    splitBytes? n s = some (a, b) ↔ s = a ++ b ∧ byteLength a = n := by
  fun_induction splitBytes? n s generalizing a with
  | case1 s =>
      constructor
      · rintro ⟨⟩
        exact ⟨rfl, rfl⟩
      · rintro ⟨rfl, ha⟩
        cases a with
        | nil => rfl
        | cons c a => exact absurd ha (Nat.ne_of_gt (byteLength_pos (List.cons_ne_nil c a)))
  | case2 n =>
      refine ⟨nofun, fun ⟨hs, ha⟩ => ?_⟩
      rw [(List.nil_eq_append_iff.1 hs).1] at ha
      cases ha
  | case3 n c rest hc ih =>
      rw [Option.map_eq_some_iff]
      constructor
      · rintro ⟨⟨a', b'⟩, h, heq⟩
        cases heq
        obtain ⟨rfl, ha⟩ := ih.1 h
        exact ⟨rfl, by rw [byteLength_cons, ha]; omega⟩
      · rintro ⟨hs, ha⟩
        cases a with
        | nil => cases ha
        | cons d a =>
            cases hs
            rw [byteLength_cons] at ha
            exact ⟨(a, b), ih.2 ⟨rfl, by omega⟩, rfl⟩
  | case4 n c rest hc =>
      refine ⟨nofun, fun ⟨hs, ha⟩ => ?_⟩
      cases a with
      | nil => cases ha
      | cons d a =>
          cases hs
          rw [byteLength_cons] at ha
          omega

/-- What stands in a text from an offset on. -/
def At (text : List Char) (offset : Nat) (rest : List Char) : Prop :=
  ∃ front, text = front ++ rest ∧ byteLength front = offset

section
variable {text s t : List Char} {pos next : Nat}

theorem at_zero (text : List Char) : At text 0 text := ⟨[], rfl, rfl⟩

theorem isBoundary_iff : isBoundary text pos = true ↔ ∃ rest, At text pos rest := by
  rw [isBoundary, Option.isSome_iff_exists]
  constructor
  · rintro ⟨⟨front, rest⟩, h⟩
    exact ⟨rest, front, splitBytes?_eq_some_iff.1 h⟩
  · rintro ⟨rest, front, h⟩
    exact ⟨(front, rest), splitBytes?_eq_some_iff.2 h⟩

/-- **The boundaries of a text are the valid positions in the string.** -/
theorem isBoundary_iff_isValid {source : String} :
    isBoundary source.toList pos = true ↔ String.Pos.Raw.IsValid source ⟨pos⟩ := by
  rw [isBoundary_iff, String.Pos.Raw.isValid_iff_exists_append]
  constructor
  · rintro ⟨rest, front, hsource, hpos⟩
    refine ⟨String.ofList front, String.ofList rest, ?_, ?_⟩
    · rw [← String.ofList_append, ← hsource, String.ofList_toList]
    · exact String.Pos.Raw.ext ((utf8ByteSize_ofList front).trans hpos).symm
  · rintro ⟨front, rest, rfl, hpos⟩
    refine ⟨rest.toList, front.toList, String.toList_append, ?_⟩
    rw [← utf8ByteSize_ofList, String.ofList_toList]
    exact (congrArg String.Pos.Raw.byteIdx hpos).symm

namespace At

theorem splitBytes? (h : At text pos s) : ∃ front, splitBytes? pos text = some (front, s) := by
  obtain ⟨front, h⟩ := h
  exact ⟨front, splitBytes?_eq_some_iff.2 h⟩

theorem behind (h : At text pos (s ++ t)) : At text (pos + byteLength s) t := by
  obtain ⟨front, rfl, rfl⟩ := h
  exact ⟨front ++ s, (List.append_assoc ..).symm, byteLength_append ..⟩

theorem length_eq (h : At text pos s) : pos + byteLength s = byteLength text := by
  obtain ⟨front, rfl, rfl⟩ := h
  exact (byteLength_append ..).symm

theorem le (h : At text pos s) : pos ≤ byteLength text := h.length_eq ▸ Nat.le_add_right ..

theorem drop_utf8 (h : At text pos s) : (utf8 text).drop pos = utf8 s := by
  obtain ⟨front, rfl, rfl⟩ := h
  rw [utf8_append, ← length_utf8, List.drop_left]

/-- What stands between two offsets is what the shorter rest lacks. -/
theorem exists_between (h : At text pos s) (hnext : At text next t) (hlen : t.length ≤ s.length) :
    ∃ mid, s = mid ++ t ∧ next = pos + byteLength mid := by
  obtain ⟨front, rfl, rfl⟩ := h
  obtain ⟨front', htext, rfl⟩ := hnext
  obtain ⟨mid, rfl, rfl⟩ | ⟨mid, rfl, rfl⟩ := List.append_eq_append_iff.1 htext
  · exact ⟨mid, rfl, byteLength_append ..⟩
  · have hmid : mid = [] := by
      rw [List.length_append] at hlen
      exact List.length_eq_zero_iff.1 (by omega)
    subst hmid
    exact ⟨[], rfl, congrArg byteLength (List.append_nil _).symm⟩

theorem le_of_length_le (h : At text pos s) (hnext : At text next t)
    (hlen : t.length ≤ s.length) : pos ≤ next := by
  obtain ⟨mid, -, rfl⟩ := h.exists_between hnext hlen
  exact Nat.le_add_right ..

theorem lt_of_length_lt (h : At text pos s) (hnext : At text next t)
    (hlen : t.length < s.length) : pos < next := by
  obtain ⟨mid, rfl, rfl⟩ := h.exists_between hnext (Nat.le_of_lt hlen)
  have hmid : mid ≠ [] := by
    rintro rfl
    exact Nat.lt_irrefl _ hlen
  exact Nat.lt_add_of_pos_right (byteLength_pos hmid)

end At
end

/-! ### Bytes and characters -/

/-- A test that tells no two characters outside ASCII apart. -/
def IsAsciiTest (p : Char → Bool) : Prop :=
  ∀ c d : Char, 128 ≤ c.toNat → 128 ≤ d.toNat → p c = p d

/-- No test of ASCII tells the two apart. -/
def Alike (b c : Char) : Prop := ∀ p : Char → Bool, IsAsciiTest p → p b = p c

theorem isAsciiTest_of_lt {p : Char → Bool} (h : ∀ c : Char, p c = true → c.toNat < 128) :
    IsAsciiTest p := by
  have hfalse : ∀ c : Char, 128 ≤ c.toNat → p c = false := by
    intro c hc
    by_contra hp
    have := h c (Bool.not_eq_false _ ▸ hp)
    omega
  intro c d hc hd
  rw [hfalse c hc, hfalse d hd]

theorem IsAsciiTest.not {p : Char → Bool} (h : IsAsciiTest p) : IsAsciiTest fun c => !p c :=
  fun c d hc hd => congrArg _ (h c d hc hd)

theorem isAsciiTest_beq {d : Char} (hd : d.toNat < 128) : IsAsciiTest (· == d) :=
  isAsciiTest_of_lt fun _ hc => (eq_of_beq hc) ▸ hd

theorem Alike.beq {b c : Char} (h : Alike b c) (d : Char) (hd : d.toNat < 128) :
    (b == d) = (c == d) :=
  h _ (isAsciiTest_beq hd)

theorem utf8EncodeChar_of_lt {c : Char} (hc : c.toNat < 128) :
    String.utf8EncodeChar c = [UInt8.ofNat c.toNat] := by
  rw [String.utf8EncodeChar]
  exact if_pos (Nat.le_of_lt_succ hc)

theorem toNat_of_mem_utf8EncodeChar {c : Char} (hc : 128 ≤ c.toNat) {b : UInt8}
    (hb : b ∈ String.utf8EncodeChar c) : 128 ≤ b.toNat := by
  have hlow : ¬ c.val.toNat ≤ 127 := Nat.not_le_of_lt hc
  -- Each byte is some bits of the code and a mark above them.
  have hmarked (bits mark : Nat) (hmark : 128 ≤ mark) (hbits : bits + mark < 256) :
      128 ≤ (UInt8.ofNat (bits + mark)).toNat := by
    rw [UInt8.toNat_ofNat']
    omega
  simp only [String.utf8EncodeChar, if_neg hlow] at hb
  split at hb
  · simp only [List.mem_cons, List.not_mem_nil, or_false] at hb
    rcases hb with rfl | rfl
    all_goals exact hmarked _ _ (by omega) (by omega)
  · split at hb
    all_goals simp only [List.mem_cons, List.not_mem_nil, or_false] at hb
    · rcases hb with rfl | rfl | rfl
      all_goals exact hmarked _ _ (by omega) (by omega)
    · rcases hb with rfl | rfl | rfl | rfl
      all_goals exact hmarked _ _ (by omega) (by omega)

theorem ofUInt8_of_lt {c : Char} (hc : c.toNat < 128) :
    Char.ofUInt8 (UInt8.ofNat c.toNat) = c := by
  have hcode : (UInt8.ofNat c.toNat).toNat = c.toNat := by
    rw [UInt8.toNat_ofNat']
    omega
  exact Char.ext (UInt32.toNat_inj.1 hcode)

/-- A character is like each of its bytes. -/
theorem alike_of_mem_utf8EncodeChar {c : Char} {b : UInt8} (hb : b ∈ String.utf8EncodeChar c) :
    Alike (Char.ofUInt8 b) c := by
  intro p hp
  rcases Nat.lt_or_ge c.toNat 128 with hc | hc
  · rw [utf8EncodeChar_of_lt hc, List.mem_singleton] at hb
    rw [hb, ofUInt8_of_lt hc]
  · exact hp _ _ (toNat_of_mem_utf8EncodeChar hc hb) hc

theorem takeWhile_utf8 {p : Char → Bool} (hp : IsAsciiTest p) (s : List Char) :
    ((utf8 s).takeWhile fun b => p (Char.ofUInt8 b)) = utf8 (s.takeWhile p) := by
  induction s with
  | nil => rfl
  | cons c s ih =>
      have hbyte : ∀ b ∈ String.utf8EncodeChar c, p (Char.ofUInt8 b) = p c :=
        fun b hb => alike_of_mem_utf8EncodeChar hb p hp
      rw [utf8_cons, List.takeWhile_cons]
      cases hc : p c with
      | true =>
          rw [if_pos rfl, utf8_cons, ← ih]
          exact List.takeWhile_append_of_pos fun b hb => (hbyte b hb).trans hc
      | false =>
          obtain ⟨b, bs, hbs⟩ := List.exists_cons_of_ne_nil (String.utf8EncodeChar_ne_nil (c := c))
          have hb := (hbyte b (hbs ▸ List.mem_cons_self)).trans hc
          rw [if_neg Bool.false_ne_true, hbs, List.cons_append, List.takeWhile_cons, if_neg]
          · rfl
          · rw [hb]
            exact Bool.false_ne_true

section
variable {text s : List Char} {pos : Nat} {p : Char → Bool} {c d : Char}

theorem runEnd_of_at (h : At text pos s) (hp : IsAsciiTest p) :
    runEnd p text pos = pos + byteLength (s.takeWhile p) := by
  rw [runEnd, h.drop_utf8, takeWhile_utf8 hp, length_utf8]

theorem at_runEnd (h : At text pos s) (hp : IsAsciiTest p) :
    At text (runEnd p text pos) (s.dropWhile p) := by
  rw [runEnd_of_at h hp]
  exact At.behind (by rwa [List.takeWhile_append_dropWhile])

theorem byteAt?_eq (text : List Char) (pos : Nat) :
    byteAt? text pos = ((utf8 text).drop pos).head?.map Char.ofUInt8 := by
  rw [byteAt?, List.head?_drop]

theorem byteAt?_of_at_nil (h : At text pos []) : byteAt? text pos = none := by
  rw [byteAt?_eq, h.drop_utf8]
  rfl

/-- The byte at the start of a character is like the character. -/
theorem byteAt?_of_at_cons (h : At text pos (c :: s)) :
    ∃ b, byteAt? text pos = some b ∧ Alike b c := by
  obtain ⟨b, bs, hbs⟩ := List.exists_cons_of_ne_nil (String.utf8EncodeChar_ne_nil (c := c))
  refine ⟨Char.ofUInt8 b, ?_, alike_of_mem_utf8EncodeChar (hbs ▸ List.mem_cons_self)⟩
  rw [byteAt?_eq, h.drop_utf8, utf8_cons, hbs]
  rfl

theorem any_byteAt? (h : At text pos s) (hp : IsAsciiTest p) :
    (byteAt? text pos).any p = s.head?.any p := by
  cases s with
  | nil =>
      rw [byteAt?_of_at_nil h]
      rfl
  | cons c s =>
      obtain ⟨b, hb, halike⟩ := byteAt?_of_at_cons h
      rw [hb]
      exact halike p hp

theorem byteAt?_beq_iff (h : At text pos s) (hd : d.toNat < 128) :
    (byteAt? text pos == some d) = true ↔ ∃ rest, s = d :: rest := by
  have hany : (byteAt? text pos == some d) = (byteAt? text pos).any (· == d) := by
    cases byteAt? text pos <;> rfl
  rw [hany, any_byteAt? h (isAsciiTest_beq hd)]
  cases s with
  | nil => exact ⟨nofun, nofun⟩
  | cons c s =>
      constructor
      · intro hc
        exact ⟨s, congrArg (· :: s) (eq_of_beq hc)⟩
      · rintro ⟨rest, hs⟩
        exact beq_iff_eq.2 (List.cons.inj hs).1

/-- What is looked for byte by byte is found where the text is split at it. -/
theorem findByte?_of_at (h : At text pos s) (hd : d.toNat < 128) :
    findByte? d text pos = (splitFirst? (· == d) s).map fun (a, _) => pos + byteLength a := by
  have hp : IsAsciiTest (· != d) := (isAsciiTest_beq hd).not
  rw [findByte?, runEnd_of_at h hp]
  cases hsplit : splitFirst? (· == d) s with
  | none =>
      have hs : s.takeWhile (· != d) = s := by
        rw [List.takeWhile_eq_self_iff]
        intro c hc
        rw [bne, splitFirst?_eq_none_iff.1 hsplit c hc]
        rfl
      rw [hs, h.length_eq]
      exact if_neg (Nat.lt_irrefl _)
  | some parts =>
      obtain ⟨c, hc, ha, rfl⟩ := splitFirst?_eq_some_iff.1 hsplit
      have hs : (parts.1 ++ c :: parts.2).takeWhile (· != d) = parts.1 :=
        takeWhile_append_of_stops (stops_cons (by rw [bne, hc]; rfl)) fun e he => by
          rw [bne, ha e he]
          rfl
      have hlt := h.behind.length_eq
      have := c.utf8Size_pos
      rw [byteLength_cons] at hlt
      rw [hs]
      exact if_pos (by omega)

end

end PostFilter.Text
