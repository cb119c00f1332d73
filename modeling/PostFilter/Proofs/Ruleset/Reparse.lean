import PostFilter.Proofs.Canonical.Fixpoint
import PostFilter.Proofs.Canonical.Nesting
import PostFilter.Proofs.Reading.Depth
import PostFilter.Proofs.Text.Bytes

/-!
# Rulesets — the text of a ruleset read again

A ruleset is written as a document, and that may be read and compiled once more. It is refused if it
is larger, or its parentheses nested deeper, than the rule list that it was compiled from was
allowed to be: to nest a chain anew takes parentheses that were not there. Where it is accepted, the
same place gives the same ruleset again but for the fingerprint (`parse_text_compile`), since a
canonical form is its own canonical form (`canonical?_reread`).

A line of alternating joiners compiles to a filter as deep as the line is long
(`compileSource_alternatingText`), and so to a text that is refused if the line is long enough.
-/

namespace PostFilter.Document
open Canonical Text

/-! ### Canonical filters -/

/-- A canonical filter is read back as the group of its clause. -/
theorem reread_asRoot {c : Clause} (h : Reduced c) : c.asRoot.reread = Group.single c := by
  cases h with
  | spell s => rfl
  | @chain joiner cs negated two _ _ _ =>
      cases negated with
      | true => rfl
      | false =>
          have hlength : (Group.chainMembers joiner cs).length = cs.length := by
            rw [← List.length_map Member.clause, clauses_chainMembers]
          have hne : (Group.chainMembers joiner cs).length ≠ 1 := by omega
          rw [Clause.asRoot, Group.reread, if_neg hne]

/-- **A canonical filter that is read back has itself as canonical form.** -/
theorem canonical?_reread {place : Option Place} {g t : Group}
    (ht : g.canonical? place = some t) : t.reread.canonical? place = some t := by
  obtain ⟨c, hc, rfl⟩ := Option.map_eq_some_iff.1 ht
  have hreduced : Reduced c := reduced_reduce place (.group g) c hc
  have hself : c.reduce place = some c := reduce_reduce (c := .group g) hc
  rw [reread_asRoot hreduced, Group.canonical?,
    reduce_single hreduced (fun _ => eq_constant_of_reduce hc) hself]
  rfl

/-! ### Rulesets -/

theorem admitted_admitted (place : Option Place) (rules : List Replacement) :
    Replacement.admitted place (Replacement.admitted place rules) =
      Replacement.admitted place rules := by
  rw [Replacement.admitted, Replacement.admitted, List.filter_filter]
  simp only [Bool.and_self]

/-- Reading back what a place made of a document changes nothing at that place. -/
theorem compile_reread (d : Document) (place : Place) :
    ((d.compile place).document.reread.compile place).document = (d.compile place).document := by
  have hfilter : ((d.compile place).filter.map Group.reread).bind (Group.canonical? (some place)) =
      (d.compile place).filter := by
    cases ht : (d.compile place).filter with
    | none => rfl
    | some t =>
        obtain ⟨g, hg, hgt⟩ := Option.bind_eq_some_iff.1 ht
        exact canonical?_reread hgt
  have hincoming : Replacement.admitted (some place) (d.compile place).incoming =
      (d.compile place).incoming := admitted_admitted (some place) d.incoming
  have houtgoing : Replacement.admitted (some place) (d.compile place).outgoing =
      (d.compile place).outgoing := admitted_admitted (some place) d.outgoing
  change Document.mk (((d.compile place).filter.map Group.reread).bind _) _ _ = _
  rw [hfilter]
  exact congrArg₂ (Document.mk _) hincoming houtgoing

/-- **The text of a ruleset read again.** It is refused if it is too large or nested too deep, and
accepted otherwise; then it compiles at the same place to the same filter and rules, and so to the
same text. -/
theorem parse_text_compile {source : String} {limits : Limits} {place : Place} {r : Ruleset}
    (h : compileSource source place limits = .ok r) :
    (limits.size < byteLength r.text.toList → ∃ position, parse r.text limits =
      .error ⟨.sourceTooLarge (byteLength r.text.toList) limits.size, position⟩) ∧
    (byteLength r.text.toList ≤ limits.size → limits.depth < r.document.depth → ∃ position,
      parse r.text limits = .error ⟨.nestedTooDeep limits.depth, position⟩) ∧
    (byteLength r.text.toList ≤ limits.size → r.document.depth ≤ limits.depth → ∃ r',
      compileSource r.text place limits = .ok r' ∧ r'.filter = r.filter ∧
        r'.incoming = r.incoming ∧ r'.outgoing = r.outgoing ∧ r'.text = r.text) := by
  obtain ⟨d, hd, rfl⟩ := exists_of_compileSource h
  have hwf : d.IsWellFormed := parse_isWellFormed hd
  have hruleset : (d.compile place).document.IsWellFormed := hwf.compile place
  refine ⟨parse_of_lt_size, fun hsize hdepth => ?_, fun hsize hdepth => ?_⟩
  · exact parse_text_of_lt_depth hruleset.isReadable {} hsize hdepth
  · have hparse : parse (d.compile place).text limits = .ok (d.compile place).document.reread :=
      parse_of_text hruleset rfl hsize hdepth
    have hcompile : compileSource (d.compile place).text place limits =
        .ok ((d.compile place).document.reread.compile place) := by
      rw [compileSource, hparse]
      rfl
    have hsame := compile_reread d place
    refine ⟨_, hcompile, ?_, ?_, ?_, ?_⟩
    · exact congrArg Document.filter hsame
    · exact congrArg Document.incoming hsame
    · exact congrArg Document.outgoing hsame
    · exact congrArg (fun d => d.text) hsame

/-! ### Rulesets of one line -/

/-- The line `#op & #sage | #op & #sage | …`, with one pair more than is counted. -/
def alternatingText (pairs : Nat) : String :=
  String.join (List.replicate pairs "#op & #sage | ") ++ "#op & #sage"

theorem alternatingText_succ (pairs : Nat) :
    alternatingText (pairs + 1) = "#op & #sage | " ++ alternatingText pairs := by
  rw [alternatingText, List.replicate_succ, String.join_cons, String.append_assoc]
  rfl

theorem chainText_alternating (pairs : Nat) :
    Group.chainText (alternating (pairs + 1)) = alternatingText pairs := by
  have hop : (Clause.spell { kind := .op }).text = "#op" := by decide +kernel
  have hsage : (Clause.spell { kind := .sage }).text = "#sage" := by decide +kernel
  induction pairs with
  | zero => decide +kernel
  | succ pairs ih =>
      calc Group.chainText (alternating (pairs + 2))
        _ = (Clause.spell { kind := .op }).text ++ " " ++ "&" ++ " " ++
              ((Clause.spell { kind := .sage }).text ++ " " ++ "|" ++ " " ++
                Group.chainText (alternating (pairs + 1))) := rfl
        _ = "#op & #sage | " ++ Group.chainText (alternating (pairs + 1)) := by
            rw [hop, hsage, ← String.append_assoc]
            congr 1
        _ = alternatingText (pairs + 1) := by rw [ih, alternatingText_succ]

theorem byteLength_alternatingText (pairs : Nat) :
    byteLength (alternatingText pairs).toList = 14 * pairs + 11 := by
  have hpair : byteLength "#op & #sage | ".toList = 14 := by decide +kernel
  induction pairs with
  | zero => decide +kernel
  | succ pairs ih =>
      rw [alternatingText_succ, String.toList_append, byteLength_append, hpair, ih]
      omega

/-- The line of alternating joiners compiles to a filter as deep as the line is long. -/
theorem compileSource_alternatingText (pairs : Nat) (place : Place) (limits : Limits)
    (hsize : 14 * pairs + 11 ≤ limits.size) :
    ∃ r g, compileSource (alternatingText pairs) place limits = .ok r ∧ r.filter = some g ∧
      g.depth = 2 * pairs + 1 := by
  have hwf : (Document.mk (some ⟨false, alternating (pairs + 1)⟩) [] []).IsWellFormed := by
    refine ⟨?_, by rintro _ ⟨⟩, by rintro _ ⟨⟩⟩
    rintro _ ⟨⟩
    exact ⟨rfl, membersWellFormed_alternating pairs⟩
  have hdepth : Group.membersDepth (alternating (pairs + 1)) ≤ limits.depth := by
    rw [membersDepth_alternating]
    exact Nat.zero_le _
  have htext : (Document.mk (some ⟨false, alternating (pairs + 1)⟩) [] []).text =
      alternatingText pairs := by
    rw [← chainText_alternating]
    rfl
  have hreread : Group.reread ⟨false, alternating (pairs + 1)⟩ =
      Group.single (.group ⟨false, alternating (pairs + 1)⟩) := if_neg nofun
  have hcompile : compileSource (alternatingText pairs) place limits = .ok
      ((Document.mk (some ⟨false, alternating (pairs + 1)⟩) [] []).reread.compile place) := by
    rw [← byteLength_alternatingText] at hsize
    rw [compileSource, parse_of_text hwf htext hsize hdepth]
    rfl
  obtain ⟨g, hg, hgdepth⟩ := canonical?_alternating (some place) pairs
  rw [← hreread] at hg
  exact ⟨_, g, hcompile, hg, hgdepth⟩

/-- Sixty-eight spells in one line compile to a text with more parentheses than a rule list may
have. -/
theorem parse_text_compile_of_alternating :
    ∃ r, compileSource (alternatingText 33) {} = .ok r ∧
      ∃ fault, parse r.text = .error fault := by
  obtain ⟨r, g, hr, hg, hgdepth⟩ := compileSource_alternatingText 33 {} {} (by decide)
  refine ⟨r, hr, ?_⟩
  obtain ⟨hlarge, hdeep, -⟩ := parse_text_compile hr
  rcases Nat.lt_or_ge ({} : Limits).size (byteLength r.text.toList) with hsize | hsize
  · obtain ⟨position, hfault⟩ := hlarge hsize
    exact ⟨_, hfault⟩
  · have hdepth : r.document.depth + 1 = 67 := by
      obtain ⟨negated, members⟩ := g
      rw [depth, Ruleset.document, hg]
      exact hgdepth
    have hlimit : 64 < r.document.depth := by omega
    obtain ⟨position, hfault⟩ := hdeep hsize hlimit
    exact ⟨_, hfault⟩

end PostFilter.Document
