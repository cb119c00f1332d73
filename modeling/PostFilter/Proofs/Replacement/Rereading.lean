import PostFilter.Proofs.Accepted.Documents

/-!
# Replacement — a rule stays as it is when it is written and read

Reading a rule normalizes its template. A rule has a normalized template once it is made, and that
is its own normal form, so the rule is read back as it is, and again and again
(`Replacement.make_stays`).
-/

namespace PostFilter.Replacement

open Document Text

/-- The rule that the written form of a rule is read as, if it is read as one rule and nothing
else. -/
def reread? (limits : Limits) (direction : Direction) (rule : Replacement) : Option Replacement :=
  match parse (rule.text direction) limits, direction with
  | .ok ⟨none, [r], []⟩, .incoming => some r
  | .ok ⟨none, [], [r]⟩, .outgoing => some r
  | _, _ => none

/-- The rule that is left after a rule was written and read a number of times. -/
def rereadTimes? (limits : Limits) (direction : Direction) :
    (times : Nat) → Replacement → Option Replacement
  | 0, rule => some rule
  | times + 1, rule => (rule.reread? limits direction).bind (rereadTimes? limits direction times)

variable {limits : Limits} {direction : Direction} {rule : Replacement}

/-- A well-formed rule is read back as it was written. -/
theorem reread?_eq_some (h : rule.IsWellFormed)
    (hsize : byteLength (rule.text direction).toList ≤ limits.size) :
    rule.reread? limits direction = some rule := by
  let d : Document := ofStatements [.replacement direction rule]
  have hd : d.IsWellFormed := isWellFormed_ofStatements (List.forall_mem_singleton.2 h)
  cases direction with
  | incoming =>
      have hread : parse (rule.text .incoming) limits = .ok ⟨none, [rule], []⟩ :=
        parse_of_text hd rfl hsize (Nat.zero_le _)
      rw [reread?.eq_def, hread]
  | outgoing =>
      have hread : parse (rule.text .outgoing) limits = .ok ⟨none, [], [rule]⟩ :=
        parse_of_text hd rfl hsize (Nat.zero_le _)
      rw [reread?.eq_def, hread]

theorem rereadTimes?_eq_some (h : rule.reread? limits direction = some rule) :
    ∀ times, rereadTimes? limits direction times rule = some rule
  | 0 => rfl
  | times + 1 => by
      rw [rereadTimes?, h, Option.bind_some]
      exact rereadTimes?_eq_some h times

/-- **A rule stays as it is.** Its template does not change when it is normalized once more, nor
the rule when it is written and read any number of times, if the limits leave room for its text and
the pattern and the scope can be written. -/
theorem make_stays (p : Pattern) (template : String) :
    normalize p (normalize p template) = normalize p template ∧
      ∀ (scope : Option Scope) (direction : Direction) (limits : Limits), p.IsLiteral →
        (∀ s ∈ scope, s.IsWellFormed) →
        byteLength ((make scope p template).text direction).toList ≤ limits.size →
        ∀ times, rereadTimes? limits direction times (make scope p template) =
          some (make scope p template) := by
  refine ⟨normalize_normalize p template, fun scope direction limits hp hscope hsize => ?_⟩
  exact rereadTimes?_eq_some (reread?_eq_some (isWellFormed_make hscope hp template) hsize)

/-- The rule `#rep[b](/(a)/,$1$$$2)`, whose template is `${1}$$$$2` once it is made. -/
theorem make_stays_of_dollars :
    ∃ p : Pattern, p.source = "(a)" ∧ normalize p "$1$$$2" = "${1}$$$$2" ∧
      ∀ times, rereadTimes? {} .incoming times (make (some ⟨"b", .anywhere⟩) p "$1$$$2") =
        some (make (some ⟨"b", .anywhere⟩) p "$1$$$2") := by
  obtain ⟨p, hsource, hflags, hgroups⟩ :=
    Pattern.exists_of_groups "(a)" #[none] (by decide +kernel)
  have htemplate : normalize p "$1$$$2" = "${1}$$$$2" := by
    rw [normalize, captures, hgroups]
    decide +kernel
  have hliteral : p.IsLiteral := by
    rw [Pattern.IsLiteral, hsource]
    exact ⟨by decide, by decide⟩
  have hscope : ∀ s ∈ (some ⟨"b", .anywhere⟩ : Option Scope), s.IsWellFormed := by
    rintro _ ⟨⟩
    exact ⟨by decide, List.all_eq_true.1 (by decide)⟩
  have hsize : byteLength ((make (some ⟨"b", .anywhere⟩) p "$1$$$2").text .incoming).toList ≤
      1048576 := by
    rw [text, make, htemplate, Pattern.text, hsource, hflags]
    dsimp only
    decide
  obtain ⟨-, hstays⟩ := make_stays p "$1$$$2"
  exact ⟨p, hsource, htemplate, hstays _ .incoming {} hliteral hscope hsize⟩

end PostFilter.Replacement
