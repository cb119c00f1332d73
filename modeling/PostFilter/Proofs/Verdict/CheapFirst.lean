import PostFilter.Proofs.Canonical.Normal
import PostFilter.Proofs.Reading.Documents
import PostFilter.Proofs.Verdict.Account

/-!
# Verdicts — what needs no lookup decides first

In a canonical chain the spells that the post itself decides stand before those that may ask, and
before all groups (`isPlain_of_before`). So when one of them settles the chain, only spells like it
have been looked at, and what stands behind it is passed over: the chain is decided without a single
lookup, for its own spells and for the groups in it (`Group.decideMembers_of_plain`).

`Ruleset.decided_without_lookup` says this of the groups of compiled rules, wherever they stand in a
walk.
-/

namespace PostFilter

variable {settings : Settings} {post : Post}

/-! ### Spells that the post decides -/

/-- Whether a clause is a spell that the post itself decides. -/
def Clause.IsPlain (c : Clause) : Prop := ∃ s, c = .spell s ∧ s.kind.mayAsk = false

/-- The kinds that may ask are the last ones. -/
theorem Kind.mayAsk_eq (kind : Kind) : kind.mayAsk = decide (14 ≤ kind.rank) := by
  cases kind <;> rfl

theorem Kind.mayAsk_of_rank_le {a b : Kind} (h : a.rank ≤ b.rank) (hb : b.mayAsk = false) :
    a.mayAsk = false := by
  rw [mayAsk_eq, decide_eq_false_iff_not] at hb ⊢
  omega

/-- Spells in order have kinds in order. -/
theorem Spell.rank_le_of_compare {s t : Spell} (h : t.compare s = .lt) :
    t.kind.rank ≤ s.kind.rank := by
  rw [Spell.compare, Ordering.then_eq_lt] at h
  rcases h with h | ⟨h, -⟩
  · exact Nat.le_of_lt (Nat.compare_eq_lt.1 h)
  · exact Nat.le_of_eq (Nat.compare_eq_eq.1 h)

/-- What comes before a spell that the post decides is decided by the post, too. -/
theorem Clause.isPlain_of_before {c : Clause} {s : Spell} (h : c.compare (.spell s) = .lt)
    (hs : s.kind.mayAsk = false) : c.IsPlain := by
  cases c with
  | spell t => exact ⟨t, rfl, Kind.mayAsk_of_rank_le (Spell.rank_le_of_compare h) hs⟩
  | group g => cases h

/-! ### Chains -/

theorem Outcome.settles_eq (o : Outcome) (joiner : Joiner) :
    o.settles joiner = joiner.isSettledBy o.value := by
  cases joiner <;> rfl

/-- Only one value settles a chain. -/
theorem Joiner.eq_of_isSettledBy {joiner : Joiner} {a b : Bool} (ha : joiner.isSettledBy a = true)
    (hb : joiner.isSettledBy b = true) : a = b := by
  cases joiner <;> simp_all [isSettledBy]

namespace Group

variable {joiner j : Joiner} {s : Spell} {after : List Member}

/-- The members behind a value that settles the chain are passed over. -/
theorem decideMembers_of_settled {o : Outcome} (ho : joiner.isSettledBy o.value = true)
    (degraded : Bool) : ∀ {members : List Member}, (∀ m ∈ members.dropLast, m.joiner = joiner) →
    decideMembers settings post (some o) joiner degraded members = .done ⟨o, degraded⟩
  | [], _ => rfl
  | [⟨c, j⟩], _ => by
      rw [decideMembers, Option.any_some, Outcome.settles_eq, if_pos ho]
      rfl
  | ⟨c, j⟩ :: m :: rest, h => by
      obtain ⟨hj, hrest⟩ := List.forall_mem_cons.1 h
      rw [decideMembers, Option.any_some, Outcome.settles_eq, if_pos ho, show j = joiner from hj]
      exact decideMembers_of_settled ho degraded hrest

/-- A chain that is settled before its members has a value that settles it. -/
theorem decideMembers_of_found {value : Bool} (hvalue : joiner.isSettledBy value = true)
    {found : Option Outcome} {link : Joiner} (hlink : found.isSome → link = joiner)
    (hfound : (found.any fun o => o.settles link) = true) (degraded : Bool) {members : List Member}
    (hjoined : ∀ m ∈ members.dropLast, m.joiner = joiner) :
    ∃ o : Outcome, o.value = value ∧
      decideMembers settings post found link degraded members = .done ⟨o, degraded⟩ := by
  obtain ⟨o, rfl, ho⟩ := (Option.any_eq_true _ _).1 hfound
  obtain rfl := hlink rfl
  rw [Outcome.settles_eq] at ho
  exact ⟨o, Joiner.eq_of_isSettledBy ho hvalue, decideMembers_of_settled ho degraded hjoined⟩

/-- **A chain that a plain spell settles is decided without asking**, if only plain ones stand
before it. It comes to the value of that spell, for an earlier member that settles the chain has the
same one. -/
theorem decideMembers_of_plain (hs : s.kind.mayAsk = false)
    (hsettles : joiner.isSettledBy (s.holds settings post != s.negated) = true) (degraded : Bool) :
    ∀ (before : List Member) (found : Option Outcome) (link : Joiner),
    (∀ m ∈ before, m.clause.IsPlain) →
    (∀ m ∈ (before ++ ⟨.spell s, j⟩ :: after).dropLast, m.joiner = joiner) →
    (found.isSome → link = joiner) →
    ∃ o : Outcome, o.value = (s.holds settings post != s.negated) ∧
      decideMembers settings post found link degraded (before ++ ⟨.spell s, j⟩ :: after) =
        .done ⟨o, degraded⟩
  | [], found, link, _, hjoined, hlink => by
      by_cases hfound : (found.any fun o => o.settles link) = true
      · exact decideMembers_of_found hsettles hlink hfound degraded hjoined
      · have hvalue := Outcome.value_joinTo_of_unsettled (Bool.not_eq_true _ ▸ hfound)
          ⟨s.holds settings post != s.negated, [s]⟩
        refine ⟨_, hvalue, ?_⟩
        rw [List.nil_append, decideMembers, if_neg hfound, Clause.decide_plain hs,
          Inquiry.pure_bind, Bool.or_false]
        match after, hjoined with
        | [], _ => rfl
        | m :: rest, hjoined =>
            obtain ⟨rfl, hrest⟩ := List.forall_mem_cons.1 hjoined
            exact decideMembers_of_settled (hvalue ▸ hsettles) degraded hrest
  | ⟨c, i⟩ :: before, found, link, hplain, hjoined, hlink => by
      by_cases hfound : (found.any fun o => o.settles link) = true
      · exact decideMembers_of_found hsettles hlink hfound degraded hjoined
      · obtain ⟨⟨t, hc, ht⟩, hbefore⟩ := List.forall_mem_cons.1 hplain
        rw [List.cons_append, List.dropLast_cons_of_ne_nil (by simp)] at hjoined
        obtain ⟨hi, hjoined⟩ := List.forall_mem_cons.1 hjoined
        rw [show c = .spell t from hc, List.cons_append, decideMembers, if_neg hfound,
          Clause.decide_plain ht, Inquiry.pure_bind, Bool.or_false]
        exact decideMembers_of_plain hs hsettles degraded before _ _ hbefore hjoined fun _ => hi

/-- The members of a tidy group before a plain spell are plain. -/
theorem IsTidy.isPlain_before {g : Group} (h : g.IsTidy) {before : List Member}
    (hmembers : g.members = before ++ ⟨.spell s, j⟩ :: after) (hs : s.kind.mayAsk = false) :
    ∀ m ∈ before, m.clause.IsPlain := by
  have hsorted := h.increasing
  rw [clauses, hmembers, List.map_append, List.map_cons, List.pairwise_append] at hsorted
  exact fun m hm => Clause.isPlain_of_before
    (hsorted.2.2 _ (List.mem_map_of_mem hm) _ (List.mem_cons_self ..)) hs

/-- Members with a joiner between them have the joiner of their group. -/
theorem IsTidy.joiner?_eq {g : Group} {m n : Member} {rest : List Member} (h : g.IsTidy)
    (hmembers : g.members = m :: n :: rest) :
    ∃ joiner, g.joiner? = some joiner ∧ ∀ m ∈ g.members.dropLast, m.joiner = joiner := by
  obtain ⟨joiner, hjoined⟩ := h.joined
  refine ⟨joiner, ?_, hjoined⟩
  obtain ⟨negated, members⟩ := g
  obtain rfl : members = _ := hmembers
  exact congrArg some (hjoined m (List.mem_cons_self ..))

/-- **A tidy group is decided without asking** if a plain spell among its members settles it, or is
the only member. -/
theorem IsTidy.decide_of_plain {g : Group} (h : g.IsTidy) (hmem : .spell s ∈ g.clauses)
    (hs : s.kind.mayAsk = false)
    (hsettles : ∀ joiner ∈ g.joiner?,
      joiner.isSettledBy (s.holds settings post != s.negated) = true) :
    ∃ o : Outcome, o.value = ((s.holds settings post != s.negated) != g.negated) ∧
      g.decide settings post = .done ⟨o, false⟩ := by
  obtain ⟨⟨c, j⟩, hm, rfl⟩ := List.mem_map.1 hmem
  obtain ⟨before, after, hmembers⟩ := List.append_of_mem hm
  have hplain := h.isPlain_before hmembers hs
  have hdecide : ∃ o : Outcome, o.value = (s.holds settings post != s.negated) ∧
      decideMembers settings post none .or false g.members = .done ⟨o, false⟩ := by
    match hall : g.members with
    | [] => rw [hall] at hm; cases hm
    | [m] =>
        rw [hall] at hm
        obtain rfl := List.mem_singleton.1 hm
        refine ⟨⟨s.holds settings post != s.negated, [s]⟩, rfl, ?_⟩
        rw [decideMembers, Option.any_none, if_neg Bool.false_ne_true, Clause.decide_plain hs]
        rfl
    | m :: n :: rest =>
        obtain ⟨joiner, hjoiner, hjoined⟩ := h.joiner?_eq hall
        rw [← hall, hmembers]
        rw [hmembers] at hjoined
        exact decideMembers_of_plain hs (hsettles joiner hjoiner) false before none .or hplain
          hjoined nofun
  obtain ⟨o, ho, hdecide⟩ := hdecide
  obtain ⟨negated, members⟩ := g
  refine ⟨o.negateIf negated, congrArg (· != negated) ho, ?_⟩
  rw [Group.decide, hdecide, Inquiry.pure_bind]

end Group

/-! ### Walks -/

/-- A group that is decided without asking hands its outcome back to the stack at once. -/
theorem Frame.walk_ofGroup_of_done {g : Group} {o : Outcome}
    (h : g.decide settings post = .done ⟨o, false⟩) (below : List Frame) (degraded : Bool) :
    Frame.walk settings post (.ofGroup g :: below) none degraded =
      match below with
      | [] => .done ⟨o, degraded⟩
      | next :: rest => Frame.walk settings post (next :: rest) (some o) degraded := by
  rw [Frame.walk_eq, Frame.accept, Frame.settle_ofGroup, h, Inquiry.pure_bind, Inquiry.pure_bind,
    Finding.mark, Bool.or_false]
  cases below with
  | nil => rfl
  | cons next rest => exact (Frame.walk_eq ..).symm

/-- **Cheap spells decide before any lookup.** If a group of compiled rules has a member that the
post itself decides and that settles the group, then nothing is asked on its behalf, neither for its
own spells nor inside the groups in it. It comes to the value of that member, and wherever it stands
in a walk, this goes back to the stack at once. -/
theorem Ruleset.decided_without_lookup {source : String} {place : Place} {limits : Document.Limits}
    {r : Ruleset} (hr : compileSource source place limits = .ok r) {root g : Group}
    (hroot : r.filter = some root) (hg : g ∈ root.groups) {s : Spell} (hmem : .spell s ∈ g.clauses)
    (hs : s.kind.mayAsk = false) (settings : Settings) (post : Post)
    (hsettles : ∀ joiner ∈ g.joiner?,
      joiner.isSettledBy (s.holds settings post != s.negated) = true) :
    ∃ o : Outcome, o.value = ((s.holds settings post != s.negated) != g.negated) ∧
      g.decide settings post = .done ⟨o, false⟩ ∧
      ∀ below degraded, Frame.walk settings post (.ofGroup g :: below) none degraded =
        match below with
        | [] => .done ⟨o, degraded⟩
        | next :: rest => Frame.walk settings post (next :: rest) (some o) degraded := by
  rw [compileSource] at hr
  cases hparse : Document.parse source limits with
  | error fault => rw [hparse] at hr; cases hr
  | ok d =>
      rw [hparse] at hr
      cases hr
      obtain ⟨written, -, hcanonical⟩ := Option.bind_eq_some_iff.1 hroot
      have htidy := (Canonical.isCanonical_canonical? hcanonical).tidy g hg
      obtain ⟨o, ho, hdecide⟩ := htidy.decide_of_plain hmem hs hsettles
      exact ⟨o, ho, hdecide, Frame.walk_ofGroup_of_done hdecide⟩

/-- In `#ihash(1) & (#vauthor(x) | #op) & #sage` the mark comes last. It is looked at first, and a
post without it is decided by it alone. -/
theorem Ruleset.decided_without_lookup_of_sage :
    let ihash : Clause := .spell { kind := .ihash, argument := some (.signature 1) }
    let vauthor : Clause := .spell { kind := .vauthor, argument := some (.text "x") }
    let op : Clause := .spell { kind := .op }
    let sage : Spell := { kind := .sage }
    let root : Group := .chain .and [.spell sage, ihash, .group (.chain .or [op, vauthor])]
    let post : Post := { number := 1, attachments := [{ name := "a", id := "1" }],
                         videos := [{ host := "h", id := "v" }] }
    (∃ r, compileSource "#ihash(0x0000000000000001) & (#vauthor(x) | #op) & #sage" {} = .ok r ∧
      r.filter = some root) ∧
    root ∈ root.groups ∧ .spell sage ∈ root.clauses ∧ sage.kind.mayAsk = false ∧
    root.joiner? = some .and ∧ Joiner.and.isSettledBy (sage.holds {} post != sage.negated) = true ∧
    ∃ o : Outcome, o.value = false ∧ root.decide {} post = .done ⟨o, false⟩ := by
  intro ihash vauthor op sage root post
  let d : Document :=
    ⟨some (.chain .and [ihash, .group (.chain .or [vauthor, op]), .spell sage]), [], []⟩
  have hwell : d.IsWellFormed := by
    refine ⟨?_, by rintro _ ⟨⟩, by rintro _ ⟨⟩⟩
    rintro _ ⟨⟩
    have hihash : ihash.IsWellFormed :=
      ⟨⟨(by decide : Kind.ihash.requirement ≠ .forbidden), rfl, trivial⟩, by rintro _ ⟨⟩⟩
    have hvauthor : vauthor.IsWellFormed :=
      ⟨⟨(by decide : Kind.vauthor.requirement ≠ .forbidden), rfl, by decide, by decide⟩,
        by rintro _ ⟨⟩⟩
    have hop : op.IsWellFormed :=
      ⟨(by decide : Kind.op.requirement ≠ .required), by rintro _ ⟨⟩⟩
    have hsage : sage.IsWellFormed :=
      ⟨(by decide : Kind.sage.requirement ≠ .required), by rintro _ ⟨⟩⟩
    exact ⟨rfl, hihash, ⟨hvauthor, hop, rfl⟩, hsage, rfl⟩
  have hparse : Document.parse "#ihash(0x0000000000000001) & (#vauthor(x) | #op) & #sage" =
      .ok d.reread :=
    Document.parse_of_text hwell (by decide +kernel) (by decide +kernel) (by decide)
  have hcompile : compileSource "#ihash(0x0000000000000001) & (#vauthor(x) | #op) & #sage" {} =
      .ok (d.reread.compile {}) := by
    rw [compileSource, hparse, Except.map]
  let either : Clause := .group (.chain .or [op, vauthor])
  have heither : Clause.joinChain .or false [some vauthor, some op] = some either :=
    Canonical.joinChain_of_sorted [op, vauthor] (by decide) (by decide) (List.cons_ne_nil _ _)
      fun _ => (List.Perm.swap op vauthor []).mem_iff
  have hmarkFirst :
      ([ihash, either] ++ [Clause.spell sage]).Perm ([Clause.spell sage] ++ [ihash, either]) :=
    List.perm_append_comm
  have hline : Clause.joinChain .and false [some ihash, some either, some (.spell sage)] =
      some (.group root) :=
    Canonical.joinChain_of_sorted root.clauses (by decide) (by decide) (List.cons_ne_nil _ _)
      fun _ => hmarkFirst.mem_iff
  have hsingle : Clause.joinChain .or false [some (.group root)] = some (.group root) :=
    Canonical.joinChain_of_sorted [.group root] (by decide) (by decide) (List.cons_ne_nil _ _)
      fun _ => Iff.rfl
  have hroot : (d.reread.compile {}).filter = some root :=
    calc (d.reread.compile {}).filter
      _ = (Clause.joinChain .or false [Clause.joinChain .and false [some ihash,
            Clause.joinChain .or false [some vauthor, some op],
            some (.spell sage)]]).map Clause.asRoot := rfl
      _ = some root := by rw [heither, hline, hsingle]; rfl
  have hgroups : root ∈ root.groups := List.mem_cons_self ..
  have hmem : .spell sage ∈ root.clauses := List.mem_cons_self ..
  obtain ⟨o, ho, hdecide, -⟩ :=
    Ruleset.decided_without_lookup hcompile hroot hgroups hmem rfl {} post (by rintro _ ⟨⟩; rfl)
  exact ⟨⟨_, hcompile, hroot⟩, hgroups, hmem, rfl, rfl, rfl, o, ho, hdecide⟩

end PostFilter
