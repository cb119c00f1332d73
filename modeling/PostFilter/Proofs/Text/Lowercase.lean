import PostFilter.Text.Lowercase
import PostFilter.Text.Words

/-!
# Text — small letters of a part of a text

Small letters are written character by character, and only a capital sigma looks at what stands
around it. So the small letters of a part of a text are those of the part alone exactly if each
capital sigma in it is final in the text if and only if it is final in the part
(`lowerWithin_eq_iff`); a part without one needs nothing (`agreesOnSigmas_of_no_sigma`).
-/

namespace PostFilter.Text

/-- Whether a capital sigma gets its final form between two texts, the first given backwards. -/
def isFinalSigma (before rest : List Char) : Bool := meetsCased before && !meetsCased rest

/-- The small letters of one character between two texts, the first given backwards. -/
def lowerBetween (before : List Char) (c : Char) (rest : List Char) : List Char :=
  if c.toNat == 0x3A3 then
    if isFinalSigma before rest then [Char.ofNat 0x3C2] else [Char.ofNat 0x3C3]
  else lowerChar c

/-- The small letters that a part of a text has there. What stands before it is given backwards. -/
def lowerWithin (before part behind : List Char) : List Char :=
  match part with
  | [] => []
  | c :: rest =>
    lowerBetween before c (rest ++ behind) ++ lowerWithin (c :: before) rest behind

/-- Whether each capital sigma in a part of a text is final in the text exactly if it is final where
nothing else is looked at than the part. `inner` is what the part has before, backwards, and
`before` what the text has before that. -/
def agreesOnSigmas (inner before part behind : List Char) : Bool :=
  match part with
  | [] => true
  | c :: rest =>
    (c.toNat != 0x3A3 ||
        isFinalSigma (inner ++ before) (rest ++ behind) == isFinalSigma inner rest) &&
      agreesOnSigmas (c :: inner) before rest behind

/-- The small letters of a text, part by part. -/
theorem lowerAfter_append (before part behind : List Char) :
    lowerAfter before (part ++ behind) =
      lowerWithin before part behind ++ lowerAfter (part.reverse ++ before) behind := by
  induction part generalizing before with
  | nil => rfl
  | cons c rest ih =>
      rw [List.cons_append, lowerAfter, lowerWithin, ih, List.reverse_cons, List.append_assoc,
        List.append_assoc]
      rfl

theorem lowerAfter_eq (before part : List Char) :
    lowerAfter before part = lowerWithin before part [] := by
  have h := lowerAfter_append before part []
  rwa [List.append_nil, lowerAfter, List.append_nil] at h

/-- A character has as many small letters everywhere. -/
theorem length_lowerBetween (before rest before' rest' : List Char) (c : Char) :
    (lowerBetween before c rest).length = (lowerBetween before' c rest').length := by
  unfold lowerBetween
  split
  · split <;> split <;> rfl
  · rfl

/-- The small letters of a character are the same in two places, unless it is a capital sigma that
is final in one of them only. -/
theorem lowerBetween_eq_iff {before rest before' rest' : List Char} {c : Char} :
    lowerBetween before c rest = lowerBetween before' c rest' ↔
      (c.toNat != 0x3A3 || isFinalSigma before rest == isFinalSigma before' rest') = true := by
  unfold lowerBetween
  cases hc : c.toNat == 0x3A3 with
  | false => simp [bne, hc]
  | true =>
      cases isFinalSigma before rest <;> cases isFinalSigma before' rest' <;> simp [bne, hc]

theorem lowerWithin_append_eq_iff (before behind : List Char) : ∀ part inner : List Char,
    lowerWithin (inner ++ before) part behind = lowerWithin inner part [] ↔
      agreesOnSigmas inner before part behind = true
  | [], _ => ⟨fun _ => rfl, fun _ => rfl⟩
  | c :: rest, inner => by
      rw [lowerWithin, lowerWithin, agreesOnSigmas, Bool.and_eq_true, List.append_nil,
        ← lowerBetween_eq_iff, ← lowerWithin_append_eq_iff before behind rest (c :: inner)]
      exact ⟨fun h => List.append_inj h (length_lowerBetween ..), fun ⟨h, h'⟩ => by
        rw [h, ← List.cons_append, h']⟩

/-- **The small letters of a part of a text are those of the part alone exactly if its sigmas are
final alike.** -/
theorem lowerWithin_eq_iff {before part behind : List Char} :
    lowerWithin before part behind = lowerAfter [] part ↔
      agreesOnSigmas [] before part behind = true := by
  rw [lowerAfter_eq]
  exact lowerWithin_append_eq_iff before behind part []

theorem agreesOnSigmas_of_no_sigma {before behind : List Char} : ∀ {part inner : List Char},
    (∀ c ∈ part, c.toNat ≠ 0x3A3) → agreesOnSigmas inner before part behind = true
  | [], _, _ => rfl
  | c :: rest, _, h => by
      obtain ⟨hc, hrest⟩ := List.forall_mem_cons.1 h
      rw [agreesOnSigmas, bne_iff_ne.2 hc, Bool.true_or, Bool.true_and,
        agreesOnSigmas_of_no_sigma hrest]

/-- What stands in a text occurs in it. -/
theorem occursIn_append (needle behind : List Char) : ∀ before : List Char,
    occursIn needle (before ++ (needle ++ behind)) = true
  | [] => by
      have hprefix : needle.isPrefixOf (needle ++ behind) = true :=
        List.isPrefixOf_iff_prefix.2 (List.prefix_append ..)
      rw [List.nil_append]
      cases h : needle ++ behind with
      | nil => rw [(List.append_eq_nil_iff.1 h).1]; rfl
      | cons c rest => rw [occursIn, ← h, hprefix, Bool.true_or]
  | c :: before => by
      rw [List.cons_append, occursIn, occursIn_append needle behind before, Bool.or_true]

/-- **Small letters are found in small letters** where the sigmas are final alike. -/
theorem occursIn_lowerAfter {before part behind : List Char}
    (h : agreesOnSigmas [] before.reverse part behind = true) :
    occursIn (lowerAfter [] part) (lowerAfter [] (before ++ (part ++ behind))) = true := by
  rw [lowerAfter_append, List.append_nil, lowerAfter_append, lowerWithin_eq_iff.2 h]
  exact occursIn_append ..

end PostFilter.Text
