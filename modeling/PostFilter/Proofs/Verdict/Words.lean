import PostFilter.Proofs.Text.Lowercase
import PostFilter.Proofs.Verdict.Account

/-!
# Verdicts — words that a post holds

`#words` looks for small letters among small letters, and the text and the words are put into small
letters each on its own. Words that stand in the text as they are written are therefore found, if
each capital sigma in them is final in the text exactly if it is final in the words
(`Clause.decide_words`). Words without a capital sigma are always found. Where the sigmas disagree,
the text has other small letters at that place than the words have, as in `ΑΣΑ` for `ΑΣ`.
-/

namespace PostFilter
open Text

/-- Words that stand in a text are found in it if their sigmas are final alike. -/
theorem containsWords_of_append {text words : String} {before behind : List Char}
    (h : text.toList = before ++ (words.toList ++ behind))
    (hsigmas : agreesOnSigmas [] before.reverse words.toList behind = true) :
    containsWords (lowercase text) words = true := by
  rw [containsWords, lowercase, lowercase, String.toList_ofList, String.toList_ofList, h]
  exact occursIn_lowerAfter hsigmas

/-- **`#words` finds its own text** wherever the capital sigmas in it are final alike in the post
and by themselves, so always if it has none. There alone does the post have the same small letters
at the place where the words stand. -/
theorem Clause.decide_words {s : Spell} {words : String} (hkind : s.kind = .words)
    (hargument : s.argument = some (.text words)) (hnegated : s.negated = false)
    (settings : Settings) {post : Post} {before behind : List Char}
    (h : post.text.toList = before ++ (words.toList ++ behind)) :
    (agreesOnSigmas [] before.reverse words.toList behind = true →
      Clause.decide settings post (.spell s) = .done ⟨⟨true, [s]⟩, false⟩) ∧
    ((∀ c ∈ words.toList, c ≠ 'Σ') →
      agreesOnSigmas [] before.reverse words.toList behind = true) ∧
    (agreesOnSigmas [] before.reverse words.toList behind = true ↔
      lowerWithin before.reverse words.toList behind = (lowercase words).toList) := by
  refine ⟨fun hsigmas => ?_, fun hnone => ?_, ?_⟩
  · have hholds : s.holds settings post = true := by
      rw [Spell.holds, hkind, hargument]
      exact containsWords_of_append h hsigmas
    rw [Clause.decide_plain (by rw [hkind]; rfl), hholds, hnegated, Bool.bne_false]
  · exact agreesOnSigmas_of_no_sigma fun c hc hsigma => hnone c hc (Char.toNat_inj.1 hsigma)
  · rw [lowercase, String.toList_ofList, lowerWithin_eq_iff]

/-- `ΑΣ` is found in `ΤΑΣ`, where the sigma is final, too. In `ΑΣΑ` it is not, and `ΑΣ` is not
found there, though it stands in the text. -/
theorem Clause.decide_words_of_sigma :
    let s : Spell := { kind := .words, argument := some (.text "ΑΣ") }
    (agreesOnSigmas [] ['Τ'] "ΑΣ".toList [] = true ∧
      Clause.decide {} { number := 1, text := "ΤΑΣ" } (.spell s) = .done ⟨⟨true, [s]⟩, false⟩) ∧
    agreesOnSigmas [] [] "ΑΣ".toList ['Α'] = false ∧
    Clause.decide {} { number := 2, text := "ΑΣΑ" } (.spell s) = .done ⟨⟨false, [s]⟩, false⟩ := by
  intro s
  have hsigmas : agreesOnSigmas [] ['Τ'] "ΑΣ".toList [] = true := by decide +kernel
  refine ⟨⟨hsigmas, ?_⟩, by decide +kernel, ?_⟩
  · let post : Post := { number := 1, text := "ΤΑΣ" }
    have hfound := @Clause.decide_words s "ΑΣ" rfl rfl rfl {} post ['Τ'] [] (by decide)
    exact hfound.1 hsigmas
  · have hholds : s.holds {} { number := 2, text := "ΑΣΑ" } = false := by decide +kernel
    rw [Clause.decide_plain rfl, hholds]
    rfl

end PostFilter
