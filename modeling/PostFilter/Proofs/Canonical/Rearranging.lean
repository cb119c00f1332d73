import PostFilter.Proofs.Canonical.Pruning
import PostFilter.Ruleset.Basic

/-!
# Canonical form — it does not see how members are arranged

Clauses that come from one another by rearranging are reduced alike (`reduce_rearranged`). A chain
looks at its members as a set: at what they give it to keep, and at which constants are among them.
Lists of members that agree in this are *alike* to the chain (`Alike`), and may be exchanged for one
another beside any others. Lists of the same members are alike, and so are a run of members and the
one member that their own chain comes to (`alike_joinChain`).

Statements are joined by `or`, so their order does not matter to what they come to. It does to the
replacement rules, which are applied one after another: they keep their order in the fingerprinted
text (`canonical?_rearranged`, `fingerprint_of_exchanged_rules`).
-/

namespace PostFilter.Canonical
open PostFilter.Order

variable {place : Option Place} {joiner : Joiner} {members members' : List (Option Clause)}

/-! ### What a chain looks at -/

theorem hasConstant_append {value : Bool} :
    HasConstant value (members ++ members') ↔
      HasConstant value members ∨ HasConstant value members' := by
  simp only [HasConstant, List.mem_append, or_and_right, exists_or]

theorem mem_kept_append {d : Clause} :
    d ∈ Clause.kept joiner ((members ++ members').filterMap id) ↔
      d ∈ Clause.kept joiner (members.filterMap id) ∨
        d ∈ Clause.kept joiner (members'.filterMap id) := by
  simp only [mem_kept, List.mem_append, or_and_right, exists_or]

theorem kept_append_eq_nil :
    Clause.kept joiner ((members ++ members').filterMap id) = [] ↔
      Clause.kept joiner (members.filterMap id) = [] ∧
        Clause.kept joiner (members'.filterMap id) = [] := by
  simp only [List.eq_nil_iff_forall_not_mem, mem_kept_append, not_or, forall_and]

/-- Whether a chain cannot tell some members from others. A constant that decides it makes it blind
to all else, and one that changes nothing is seen only where nothing is kept. -/
structure Alike (joiner : Joiner) (members members' : List (Option Clause)) : Prop where
  deciding : HasConstant (!joiner.identity) members ↔ HasConstant (!joiner.identity) members'
  kept : ¬ HasConstant (!joiner.identity) members → ∀ d,
    d ∈ Clause.kept joiner (members.filterMap id) ↔ d ∈ Clause.kept joiner (members'.filterMap id)
  identity : ¬ HasConstant (!joiner.identity) members →
    Clause.kept joiner (members.filterMap id) = [] →
    (HasConstant joiner.identity members ↔ HasConstant joiner.identity members')

/-- **Members that are alike to a chain make the same chain.** -/
theorem Alike.joinChain_eq (h : Alike joiner members members') (negated : Bool) :
    Clause.joinChain joiner negated members = Clause.joinChain joiner negated members' := by
  by_cases hd : HasConstant (!joiner.identity) members
  · rw [joinChain_of_deciding hd, joinChain_of_deciding (h.deciding.1 hd)]
  have hd' : ¬ HasConstant (!joiner.identity) members' := mt h.deciding.2 hd
  have hkept : Clause.kept joiner (members.filterMap id) =
      Clause.kept joiner (members'.filterMap id) :=
    eq_of_pairwise_before (pairwise_kept _ _) (pairwise_kept _ _) (h.kept hd)
  by_cases hk : Clause.kept joiner (members.filterMap id) = []
  · have hidentity := h.identity hd hk
    by_cases hi : HasConstant joiner.identity members
    · rw [joinChain_of_identity hd hk hi,
        joinChain_of_identity hd' (hkept ▸ hk) (hidentity.1 hi)]
    · rw [joinChain_of_nothing hd hk hi,
        joinChain_of_nothing hd' (hkept ▸ hk) (mt hidentity.2 hi)]
  · rw [joinChain_of_kept hd hk, joinChain_of_kept hd' (hkept ▸ hk), hkept]

/-- Lists of the same members are alike. -/
theorem alike_of_mem_iff (h : ∀ c, some c ∈ members ↔ some c ∈ members') :
    Alike joiner members members' where
  deciding := by simp only [HasConstant, h]
  kept _ d := by simp only [mem_kept, h]
  identity _ _ := by simp only [HasConstant, h]

/-- Other members beside them make no difference. -/
theorem Alike.append (h : Alike joiner members members') (others : List (Option Clause)) :
    Alike joiner (members ++ others) (members' ++ others) where
  deciding := by rw [hasConstant_append, hasConstant_append, h.deciding]
  kept hd d := by
    rw [mem_kept_append, mem_kept_append, h.kept (fun hd' => hd (hasConstant_append.2 (Or.inl hd')))]
  identity hd hk := by
    rw [hasConstant_append, hasConstant_append,
      h.identity (fun hd' => hd (hasConstant_append.2 (Or.inl hd'))) (kept_append_eq_nil.1 hk).1]

/-- What is kept is made into one member, and kept again out of that member. -/
theorem kept_ofKept (h : AllReduced members) (hk : Clause.kept joiner (members.filterMap id) ≠ []) :
    Clause.kept joiner ([some (Clause.ofKept joiner false
      (Clause.kept joiner (members.filterMap id)))].filterMap id) =
        Clause.kept joiner (members.filterMap id) := by
  have hlinks : ∀ d ∈ Clause.kept joiner (members.filterMap id), IsLink joiner d :=
    fun d hd => (h.of_mem_kept hd).1
  rw [kept_singleton joiner (constant?_ofKept fun d hd => (hlinks d hd).1), parts_ofKept hk hlinks,
    sortDistinct_eq_self (pairwise_kept _ _)]

/-- **A chain cannot tell members from what their own chain comes to.** -/
theorem alike_joinChain (h : AllReduced members) :
    Alike joiner [Clause.joinChain joiner false members] members := by
  rcases joinChain_cases joiner false members with
    ⟨hd, he⟩ | ⟨hd, ⟨hk, hi, he⟩ | ⟨hk, hi, he⟩ | ⟨hk, he⟩⟩
  · rw [he, Bool.bne_false]
    have hdecided : HasConstant (!joiner.identity) [some (.constant (!joiner.identity))] :=
      hasConstant_singleton.2 (constant?_constant _)
    exact {
      deciding := iff_of_true hdecided hd
      kept := fun hd' => absurd hdecided hd'
      identity := fun hd' => absurd hdecided hd' }
  · rw [he, Bool.bne_false]
    have hconstant := constant?_constant joiner.identity
    have hundecided : ¬ HasConstant (!joiner.identity) [some (.constant joiner.identity)] := by
      rw [hasConstant_singleton, hconstant, Option.some.injEq]
      cases joiner <;> decide
    exact {
      deciding := iff_of_false hundecided hd
      kept := fun _ d => by rw [hk, kept_singleton_constant joiner hconstant]
      identity := fun _ _ => iff_of_true (hasConstant_singleton.2 hconstant) hi }
  · rw [he]
    have habsent (c : Clause) : some c ∉ [none] := by simp
    have hconstant (value : Bool) : ¬ HasConstant value [none] := fun ⟨c, hc, _⟩ => habsent c hc
    exact {
      deciding := iff_of_false (hconstant _) hd
      kept := fun _ d => by
        rw [hk, mem_kept]
        exact iff_of_false (fun ⟨c, hc, _⟩ => habsent c hc) List.not_mem_nil
      identity := fun _ _ => iff_of_false (hconstant _) hi }
  · rw [he]
    have hnone : (Clause.ofKept joiner false
        (Clause.kept joiner (members.filterMap id))).constant? = none :=
      constant?_ofKept fun d hd => (h.of_mem_kept hd).1.1
    have hundecided : ¬ HasConstant (!joiner.identity)
        [some (Clause.ofKept joiner false (Clause.kept joiner (members.filterMap id)))] := by
      rw [hasConstant_singleton, hnone]
      exact nofun
    have hkept := kept_ofKept h hk
    exact {
      deciding := iff_of_false hundecided hd
      kept := fun _ d => by rw [hkept]
      identity := fun _ hnil => absurd (hkept.symm.trans hnil) hk }

/-- **Members that stand side by side may be replaced by what their own chain comes to.** -/
theorem joinChain_run (negated : Bool) {before run after : List (Option Clause)}
    (h : AllReduced run) :
    Clause.joinChain joiner negated (before ++ Clause.joinChain joiner false run :: after) =
      Clause.joinChain joiner negated (before ++ (run ++ after)) :=
  calc Clause.joinChain joiner negated (before ++ Clause.joinChain joiner false run :: after)
      = Clause.joinChain joiner negated
          ([Clause.joinChain joiner false run] ++ (before ++ after)) :=
        (alike_of_mem_iff fun c => by simp [or_left_comm]).joinChain_eq negated
    _ = Clause.joinChain joiner negated (run ++ (before ++ after)) :=
        ((alike_joinChain h).append (before ++ after)).joinChain_eq negated
    _ = Clause.joinChain joiner negated (before ++ (run ++ after)) :=
        (alike_of_mem_iff fun c => by simp [or_left_comm]).joinChain_eq negated

/-! ### Rearranged clauses -/

theorem reduceMembers_eq_map (members : List Member) :
    Group.reduceMembers place members = members.map fun m => (m.clause.reduce place, m.joiner) := by
  induction members with
  | nil => rfl
  | cons m rest ih =>
      obtain ⟨c, joiner⟩ := m
      rw [Group.reduceMembers, ih, List.map_cons]

/-- **Rearranged clauses are reduced alike.** -/
theorem reduce_rearranged {c d : Clause} (h : c.Rearranged d) :
    c.reduce place = d.reduce place := by
  induction h with
  | @permute joiner negated cs cs' members members' joins joins' perm =>
      rw [Clause.reduce, Clause.reduce, reduce_joins negated joins, reduce_joins negated joins']
      exact (alike_of_mem_iff fun c => (perm.map _).mem_iff).joinChain_eq negated
  | @duplicate joiner negated c before after members members' joins joins' =>
      rw [Clause.reduce, Clause.reduce, reduce_joins negated joins, reduce_joins negated joins']
      exact (alike_of_mem_iff fun d => by simp).joinChain_eq negated
  | @wrap joiner negated before run after members inner members' joins wrapped joins' =>
      rw [Clause.reduce, Clause.reduce, reduce_joins negated joins, reduce_joins negated joins']
      have hinner : Clause.reduce place (.group ⟨false, inner⟩) =
          Clause.joinChain joiner false (run.map (Clause.reduce place)) :=
        reduce_joins false wrapped
      rw [List.map_append, List.map_append, List.map_append, List.map_cons, hinner,
        joinChain_run negated (allReduced_map_reduce place run)]
  | inside before after _ ih =>
      rw [Clause.reduce, Clause.reduce, Group.reduce, Group.reduce, reduceMembers_eq_map,
        reduceMembers_eq_map, List.map_append, List.map_append, List.map_cons, List.map_cons, ih]
  | refl c => rfl
  | symm _ ih => exact ih.symm
  | trans _ _ ih ih' => exact ih.trans ih'

/-- A rearranged group has the same canonical form. -/
theorem canonical?_of_rearranged {g h : Group}
    (hrearranged : Clause.Rearranged (.group g) (.group h)) :
    g.canonical? place = h.canonical? place :=
  congrArg (Option.map Clause.asRoot) (reduce_rearranged hrearranged)

/-! ### Statements in another order -/

open Document (ofStatements filterOf)

theorem filterOf_perm {cs cs' : List Clause} (h : cs.Perm cs') :
    (filterOf cs).bind (Group.canonical? place) = (filterOf cs').bind (Group.canonical? place) := by
  match cs, cs', h with
  | [], [], _ => rfl
  | [], _ :: _, h => exact absurd h.nil_eq nofun
  | _ :: _, [], h => exact absurd h.eq_nil nofun
  | c :: cs, d :: cs', h =>
      exact canonical?_of_rearranged
        (.permute (joins_chainMembers .or (c :: cs)) (joins_chainMembers .or (d :: cs')) h)

/-- **Arrangement does not matter to canonical forms.** Rearranged groups have the same one, at
every place and without any. Statements in another order compile to the same filter; and if the
order of the replacement rules in either direction is the same, they have the same fingerprint. -/
theorem canonical?_rearranged :
    (∀ (g h : Group), Clause.Rearranged (.group g) (.group h) → ∀ place : Option Place,
      g.canonical? place = h.canonical? place) ∧
    ∀ statements statements' : List Statement, statements.Perm statements' →
      (∀ place, ((ofStatements statements).compile place).filter =
        ((ofStatements statements').compile place).filter) ∧
      ((ofStatements statements).incoming = (ofStatements statements').incoming →
        (ofStatements statements).outgoing = (ofStatements statements').outgoing →
        (ofStatements statements).fingerprint = (ofStatements statements').fingerprint) := by
  refine ⟨fun g h hrearranged place => canonical?_of_rearranged hrearranged,
    fun statements statements' hperm => ?_⟩
  have hfilter (place : Option Place) :
      (ofStatements statements).filter.bind (Group.canonical? place) =
        (ofStatements statements').filter.bind (Group.canonical? place) :=
    filterOf_perm (hperm.filterMap Statement.clause?)
  refine ⟨fun place => hfilter (some place), fun hincoming houtgoing => ?_⟩
  rw [Document.fingerprint, Document.fingerprint, Document.canonical, Document.canonical,
    hfilter none, hincoming, houtgoing]

/-- A pattern that is written `/a/`. -/
theorem exists_pattern : ∃ p : Pattern, p.text = "/a/" := by
  have hok : (Pattern.resolve "a" {}).toBool = true := by decide +kernel
  cases h : Pattern.resolve "a" {} with
  | ok expr =>
      have htext : "/" ++ "a" ++ "/" ++ Pattern.Flags.text {} = "/a/" := by decide +kernel
      exact ⟨⟨"a", {}, expr, h⟩, htext⟩
  | error fault =>
      rw [h] at hok
      cases hok

/-- `!(#op & (#sage & #op) | #trip)` is `!(#op & #sage | #trip)`, and lines that are exchanged around
a replacement rule keep their fingerprint. -/
theorem canonical?_rearranged_of_nested :
    let op : Clause := .spell { kind := .op }
    let sage : Clause := .spell { kind := .sage }
    let trip : Clause := .spell { kind := .trip }
    let repeated : Group := .chain .and [op, .group (.chain .and [sage, op])]
    let g : Group := ⟨true, [⟨.group repeated, .or⟩, ⟨trip, .or⟩]⟩
    let h : Group := ⟨true, [⟨.group (.chain .and [op, sage]), .or⟩, ⟨trip, .or⟩]⟩
    (∀ place, g.canonical? place = h.canonical? place) ∧ ∃ rule : Replacement,
      (ofStatements [.clause op, .replacement .incoming rule, .clause sage]).fingerprint =
        (ofStatements [.clause sage, .clause op, .replacement .incoming rule]).fingerprint := by
  intro op sage trip repeated g h
  obtain ⟨hrearranged, hstatements⟩ := canonical?_rearranged
  have hchain (cs : List Clause) := joins_chainMembers .and cs
  have hwrap : Clause.Rearranged (.group (.chain .and [op, sage, op])) (.group repeated) :=
    .wrap (hchain ([op] ++ ([sage, op] ++ []))) (hchain [sage, op]) (hchain _)
  have hpermute : Clause.Rearranged (.group (.chain .and [op, sage, op]))
      (.group (.chain .and [op, op, sage])) :=
    .permute (hchain _) (hchain _) ((List.Perm.swap op sage []).cons op)
  have hrepeat : Clause.Rearranged (.group (.chain .and [op, sage]))
      (.group (.chain .and [op, op, sage])) :=
    .duplicate (hchain ([] ++ op :: [sage])) (hchain _)
  have hgroup : Clause.Rearranged (.group g) (.group h) :=
    .inside [] [⟨trip, .or⟩] (hwrap.symm.trans (hpermute.trans hrepeat.symm))
  obtain ⟨p, -⟩ := exists_pattern
  let rule : Replacement := ⟨none, p, "b"⟩
  let first : List Statement := [.clause op, .replacement .incoming rule]
  let last : List Statement := [.clause sage]
  have hperm : (first ++ last).Perm (last ++ first) := List.perm_append_comm
  exact ⟨hrearranged g h hgroup, rule, (hstatements _ _ hperm).2 rfl rfl⟩

/-- Replacement rules that change places change the fingerprint. -/
theorem fingerprint_of_exchanged_rules :
    ∃ statements statements' : List Statement, statements.Perm statements' ∧
      (ofStatements statements).canonical.text = "#rep(/a/,b)\n#rep(/a/,c)" ∧
      (ofStatements statements').canonical.text = "#rep(/a/,c)\n#rep(/a/,b)" ∧
      (ofStatements statements).fingerprint ≠ (ofStatements statements').fingerprint := by
  obtain ⟨p, hp⟩ := exists_pattern
  let rule (template : String) : Replacement := ⟨none, p, template⟩
  let statement (template : String) : Statement := .replacement .incoming (rule template)
  have hrule (template : String) : (rule template).text .incoming =
      "#" ++ "rep" ++ "" ++ "(" ++ "/a/" ++ "," ++ escapeText template ++ ")" := by
    rw [Replacement.text, hp]
    rfl
  have hdocument (first second : String) :
      (ofStatements [statement first, statement second]).canonical.text =
        "\n".intercalate [(rule first).text .incoming, (rule second).text .incoming] := rfl
  have htext : (ofStatements [statement "b", statement "c"]).canonical.text =
      "#rep(/a/,b)\n#rep(/a/,c)" := by
    rw [hdocument, hrule, hrule]
    decide +kernel
  have htext' : (ofStatements [statement "c", statement "b"]).canonical.text =
      "#rep(/a/,c)\n#rep(/a/,b)" := by
    rw [hdocument, hrule, hrule]
    decide +kernel
  refine ⟨_, _, List.Perm.swap _ _ _, htext, htext', ?_⟩
  rw [Document.fingerprint, Document.fingerprint, htext, htext']
  decide +kernel

end PostFilter.Canonical
