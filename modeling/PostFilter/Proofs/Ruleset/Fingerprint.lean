import PostFilter.Proofs.Accepted.Canonical
import PostFilter.Proofs.Canonical.Pruning
import PostFilter.Proofs.Reading.Injective

/-!
# Rulesets — what a fingerprint tells apart

The fingerprint of a document is taken of its canonical form without a place. Documents whose
fingerprinted texts are equal have the same replacement rules, and filters that are reduced to the
same clause (`reduce_eq_of_text_eq`). So they compile to the same ruleset at a place if their
filters keep there, which they do where no chain of either is exposed (`compile_of_text_eq`).

Without that they need not. `#all & #sage[b]` has the fingerprint of `#sage[b]`, since `#all`
changes nothing beside another member. Away from board `b` that member is absent, and the first
document hides every post and the second one none.
-/

namespace PostFilter.Document
open Canonical Text

/-- Whether some chain of the filter is exposed at the place. -/
def hasExposed (place : Place) (d : Document) : Bool := d.filter.any (Group.hasExposed place)

/-- Whether the canonical form of the filter without a place says what the filter comes to at the
place. -/
def KeepsAt (place : Place) (d : Document) : Prop := ∀ g ∈ d.filter, g.KeepsAt place

theorem keepsAt_of_hasExposed {d : Document} {place : Place} (h : d.hasExposed place = false) :
    d.KeepsAt place := by
  intro g hg
  rw [hasExposed, Option.mem_def.1 hg, Option.any_some] at h
  exact Canonical.keepsAt_of_hasExposed h

theorem keepsAt_iff {d : Document} {place : Place} : d.KeepsAt place ↔
    prune (some place) (d.filter.bind (Group.reduce none)) =
      d.filter.bind (Group.reduce (some place)) := by
  rw [KeepsAt]
  cases d.filter with
  | none => exact ⟨fun _ => rfl, fun _ => by rintro _ ⟨⟩⟩
  | some g => exact ⟨fun h => h g rfl, fun h => by rintro _ ⟨⟩; exact h⟩

/-! ### Outermost groups -/

theorem bind_canonical? (place : Option Place) (filter : Option Group) :
    filter.bind (Group.canonical? place) =
      (filter.bind (Group.reduce place)).map Clause.asRoot := by
  cases filter <;> rfl

theorem reduced_filter {place : Option Place} {filter : Option Group} :
    ∀ c, filter.bind (Group.reduce place) = some c → Reduced c := by
  intro c hc
  obtain ⟨g, -, hg⟩ := Option.bind_eq_some_iff.1 hc
  exact reduced_reduceGroup place g c hg

/-- A reduced clause can be told from its outermost group. -/
theorem map_statementClause_asRoot {m : Option Clause} (h : ∀ c, m = some c → Reduced c) :
    (m.map Clause.asRoot).map (fun g => statementClause g.members) = m := by
  cases m with
  | none => rfl
  | some c => exact congrArg some (statementClause_asRoot (h c rfl))

theorem map_asRoot_injective {m m' : Option Clause} (h : ∀ c, m = some c → Reduced c)
    (h' : ∀ c, m' = some c → Reduced c) (heq : m.map Clause.asRoot = m'.map Clause.asRoot) :
    m = m' := by
  rw [← map_statementClause_asRoot h, heq, map_statementClause_asRoot h']

theorem filter_compile (d : Document) (place : Place) :
    (d.compile place).filter = (d.filter.bind (Group.reduce (some place))).map Clause.asRoot :=
  bind_canonical? _ _

/-! ### Equal texts -/

section EqualTexts

variable {s₁ s₂ : String} {limits₁ limits₂ : Limits} {d₁ d₂ : Document}
  (h₁ : parse s₁ limits₁ = .ok d₁) (h₂ : parse s₂ limits₂ = .ok d₂)
  (htext : d₁.canonical.text = d₂.canonical.text)
include h₁ h₂ htext

/-- **Equal fingerprinted texts mean equal rules, and filters with one canonical form.** -/
theorem reduce_eq_of_text_eq :
    d₁.filter.bind (Group.reduce none) = d₂.filter.bind (Group.reduce none) ∧
      d₁.incoming = d₂.incoming ∧ d₁.outgoing = d₂.outgoing := by
  obtain ⟨hfilter, hin, hout⟩ := text_injective (parse_isReadable h₁).canonical
    (parse_isReadable h₂).canonical htext
  refine ⟨?_, hin, hout⟩
  rw [canonical, canonical, bind_canonical?, bind_canonical?,
    map_statementClause_asRoot reduced_filter, map_statementClause_asRoot reduced_filter] at hfilter
  exact hfilter

/-- Next to a filter that keeps at the place, the filters are the same exactly if the other one
keeps, too. -/
theorem filter_eq_iff_keepsAt {place : Place} (hkeeps : d₂.KeepsAt place) :
    (d₁.compile place).filter = (d₂.compile place).filter ↔ d₁.KeepsAt place := by
  have hreduce := (reduce_eq_of_text_eq h₁ h₂ htext).1
  rw [keepsAt_iff] at hkeeps ⊢
  -- Without a place the filters are reduced to one clause, and pruning it gives the second filter.
  rw [filter_compile, filter_compile, hreduce, hkeeps]
  constructor
  · exact fun heq => (map_asRoot_injective reduced_filter reduced_filter heq).symm
  · exact fun heq => by rw [heq]

/-- **Equal fingerprinted texts and a place.** The replacement rules that apply are the same. The
filters are the same if no chain of either document is exposed at the place. More exactly, next to a
document whose filter keeps there, they are the same exactly if the other filter keeps, which it
does if none of its chains is exposed and does not if it is exposed as a whole; and all its chains
keep exactly if none is exposed. -/
theorem compile_of_text_eq (place : Place) :
    (d₁.compile place).incoming = (d₂.compile place).incoming ∧
    (d₁.compile place).outgoing = (d₂.compile place).outgoing ∧
    (d₁.hasExposed place = false → d₂.hasExposed place = false →
      (d₁.compile place).filter = (d₂.compile place).filter) ∧
    (d₂.KeepsAt place →
      ((d₁.compile place).filter = (d₂.compile place).filter ↔ d₁.KeepsAt place)) ∧
    ∀ g ∈ d₁.filter, (g.isExposed place = true → ¬ d₁.KeepsAt place) ∧
      ((∀ h ∈ g.chains, h.KeepsAt place) ↔ g.hasExposed place = false) := by
  obtain ⟨-, hin, hout⟩ := reduce_eq_of_text_eq h₁ h₂ htext
  refine ⟨?_, ?_, fun hexposed₁ hexposed₂ => ?_, filter_eq_iff_keepsAt h₁ h₂ htext,
    fun g hg => ⟨fun hexposed hkeeps => ?_, keepsAt_chains_iff⟩⟩
  · rw [compile, compile, hin]
  · rw [compile, compile, hout]
  · exact (filter_eq_iff_keepsAt h₁ h₂ htext (keepsAt_of_hasExposed hexposed₂)).2
      (keepsAt_of_hasExposed hexposed₁)
  · exact not_keepsAt_of_isExposed hexposed (hkeeps g hg)

end EqualTexts

/-- At board `a`, `#all & #op` compiles to the filter of `#op`. But `#all & #sage[b]` hides every
post there, and `#sage[b]` none. -/
theorem compile_of_all_texts :
    let a : Place := { board := some "a" }
    (∃ d₁ d₂, parse "#all & #op" = .ok d₁ ∧ parse "#op" = .ok d₂ ∧
      d₁.canonical.text = d₂.canonical.text ∧
      d₁.hasExposed a = false ∧ d₂.hasExposed a = false ∧
      (d₁.compile a).filter = (d₂.compile a).filter) ∧
    ∃ d₁ d₂, parse "#all & #sage[b]" = .ok d₁ ∧ parse "#sage[b]" = .ok d₂ ∧
      d₁.canonical.text = d₂.canonical.text ∧ d₂.KeepsAt a ∧
      (d₁.compile a).filter.map Group.defaultText = some "#all" ∧
      (d₂.compile a).filter.map Group.defaultText = none ∧
      (d₁.compile a).filter ≠ (d₂.compile a).filter := by
  intro a
  have hop : Spell.IsWellFormed { kind := .op } :=
    ⟨(by decide : Kind.op.requirement ≠ .required), by rintro _ ⟨⟩⟩
  have hsage : Spell.IsWellFormed { kind := .sage, scope := some ⟨"b", .anywhere⟩ } := by
    refine ⟨(by decide : Kind.sage.requirement ≠ .required), ?_⟩
    rintro _ ⟨⟩
    exact ⟨by decide, List.all_eq_true.1 (by decide +kernel)⟩
  have parse_spell {s : Spell} (hs : s.IsWellFormed) (source : String)
      (htext : Document.text ⟨some (.single (.spell s)), [], []⟩ = source)
      (hsize : byteLength source.toList ≤ 1048576) :
      parse source = .ok ⟨some (.single (.spell s)), [], []⟩ := by
    refine parse_of_text (d := ⟨some (.single (.spell s)), [], []⟩)
      ⟨?_, by rintro _ ⟨⟩, by rintro _ ⟨⟩⟩ htext hsize (Nat.zero_le _)
    rintro _ ⟨⟩
    exact ⟨rfl, hs, rfl⟩
  have parse_all {s : Spell} (hs : s.IsWellFormed) (source : String)
      (htext : Document.text ⟨some (.chain .and [.constant true, .spell s]), [], []⟩ = source)
      (hsize : byteLength source.toList ≤ 1048576) : parse source =
        .ok ⟨some (.single (.group (.chain .and [.constant true, .spell s]))), [], []⟩ := by
    refine parse_of_text (d := ⟨some (.chain .and [.constant true, .spell s]), [], []⟩)
      ⟨?_, by rintro _ ⟨⟩, by rintro _ ⟨⟩⟩ htext hsize (Nat.zero_le _)
    rintro _ ⟨⟩
    exact ⟨rfl, isWellFormed_constant true, hs, rfl⟩
  refine ⟨?_, ?_⟩
  · have h₁ := parse_all hop "#all & #op" (by decide +kernel) (by decide +kernel)
    have h₂ := parse_spell hop "#op" (by decide +kernel) (by decide +kernel)
    refine ⟨_, _, h₁, h₂, by decide +kernel, by decide +kernel, by decide +kernel, ?_⟩
    exact (compile_of_text_eq h₁ h₂ (by decide +kernel) a).2.2.1 (by decide +kernel)
      (by decide +kernel)
  · have h₁ := parse_all hsage "#all & #sage[b]" (by decide +kernel)
      (by decide +kernel)
    have h₂ := parse_spell hsage "#sage[b]" (by decide +kernel) (by decide +kernel)
    have hkeeps : KeepsAt a ⟨some (.single (.spell
        { kind := .sage, scope := some ⟨"b", .anywhere⟩ })), [], []⟩ :=
      keepsAt_of_hasExposed (by decide +kernel)
    refine ⟨_, _, h₁, h₂, by decide +kernel, hkeeps, by decide +kernel, by decide +kernel, ?_⟩
    obtain ⟨-, -, -, hfilter, hexposed⟩ := compile_of_text_eq h₁ h₂ (by decide +kernel) a
    exact fun heq => (hexposed _ rfl).1 (by decide +kernel) ((hfilter hkeeps).1 heq)

end PostFilter.Document
