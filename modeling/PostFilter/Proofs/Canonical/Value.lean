import PostFilter.Clause.Value
import PostFilter.Proofs.Canonical.Shape
import PostFilter.Verdict.Evaluation

/-!
# Canonical form — values of chains

What a chain of values comes to depends only on which values occur in it (`gather`). That is why
sorting, dropping repetitions and opening inner chains change nothing. The value of a chain of
clauses is gathered from theirs (`value?_chain`), and negating a clause flips its value
(`value?_negateIf`).

The two readings of a rule agree where nothing is absent: `Group.value?`, which skips no present
member, and `Group.isTrue`, which passes over members that cannot matter (`value?_eq_isTrue`).
-/

namespace PostFilter.Canonical
open PostFilter.Order

variable {v : Valuation} {place : Option Place}

/-! ### Values of chains -/

/-- What values, some absent, come to in a chain: the deciding value if it occurs, else the other
one if that occurs. -/
def gather (joiner : Joiner) (values : List (Option Bool)) : Option Bool :=
  if some (!joiner.identity) ∈ values then some (!joiner.identity)
  else if some joiner.identity ∈ values then some joiner.identity
  else none

theorem gather_cons (joiner : Joiner) (a b : Option Bool) (values : List (Option Bool)) :
    gather joiner (joiner.applyPresent a b :: values) = gather joiner (a :: b :: values) := by
  cases joiner <;> rcases a with _ | (_ | _) <;> rcases b with _ | (_ | _) <;>
    simp [gather, Joiner.applyPresent, Joiner.apply, Joiner.identity]

theorem foldl_applyPresent (joiner : Joiner) (values : List (Option Bool)) (found : Option Bool) :
    values.foldl joiner.applyPresent found = gather joiner (found :: values) := by
  induction values generalizing found with
  | nil =>
      rcases found with _ | (_ | _) <;> cases joiner <;> simp [gather, Joiner.identity]
  | cons a values ih => rw [List.foldl_cons, ih, gather_cons]

theorem gather_none_cons (joiner : Joiner) (values : List (Option Bool)) :
    gather joiner (none :: values) = gather joiner values := by
  simp [gather]

theorem gather_eq_deciding {joiner : Joiner} {values : List (Option Bool)} :
    gather joiner values = some (!joiner.identity) ↔ some (!joiner.identity) ∈ values := by
  rw [gather]
  split
  · simpa
  · rename_i h
    simp only [h, iff_false]
    split <;> simp

/-- Where the deciding value does not occur and some value does, the other value results. -/
theorem gather_eq_identity {joiner : Joiner} {values : List (Option Bool)} {a : Option Bool}
    (h : some (!joiner.identity) ∉ values) (ha : a ∈ values) (hs : a.isSome) :
    gather joiner values = some joiner.identity := by
  obtain ⟨b, rfl⟩ := Option.isSome_iff_exists.1 hs
  have hb : b = joiner.identity := by
    by_contra hne
    exact h (Bool.eq_not_of_ne hne ▸ ha)
  rw [gather, if_neg h, if_pos (hb ▸ ha)]

@[simp] theorem applyPresent_none_left (joiner : Joiner) (a : Option Bool) :
    joiner.applyPresent none a = a := by
  cases a <;> rfl

theorem foldValue?_chainMembers (joiner : Joiner) : ∀ (cs : List Clause) (found : Option Bool),
    Group.foldValue? v place found joiner (Group.chainMembers joiner cs) =
      (cs.map (Clause.value? v place)).foldl joiner.applyPresent found
  | [], found => by rw [Group.chainMembers, Group.foldValue?]; rfl
  | [c], found => by rw [Group.chainMembers, Group.foldValue?, Group.foldValue?]; rfl
  | c :: d :: rest, found => by
      rw [Group.chainMembers, Group.foldValue?, foldValue?_chainMembers joiner (d :: rest)]
      rfl

/-- The value of a chain. -/
theorem value?_chain (joiner : Joiner) (negated : Bool) (cs : List Clause) :
    Clause.value? v place (.group ⟨negated, Group.chainMembers joiner cs⟩) =
      (gather joiner (cs.map (Clause.value? v place))).map fun value => value != negated := by
  rw [Clause.value?, Group.value?]
  congr 1
  -- The joiner before the first member is never used: nothing was found yet.
  have first : ∀ link : Joiner, Group.foldValue? v place none link (Group.chainMembers joiner cs) =
      Group.foldValue? v place none joiner (Group.chainMembers joiner cs) := fun link => by
    match cs with
    | [] => rfl
    | [_] | _ :: _ :: _ => simp only [Group.chainMembers, Group.foldValue?, applyPresent_none_left]
  rw [first, foldValue?_chainMembers, foldl_applyPresent, gather_none_cons]

/-! ### Negation and constants -/

theorem ofSpell_negate (v : Valuation) (s : Spell) : v.ofSpell s.negate = !v.ofSpell s := by
  simp only [Valuation.ofSpell, Spell.negate]
  cases v s.kind s.argument s.scope <;> cases s.negated <;> rfl

theorem value?_negateIf (c : Clause) (negated : Bool) :
    (c.negateIf negated).value? v place =
      (c.value? v place).map fun value => value != negated := by
  cases negated with
  | false => cases h : c.value? v place <;> simp [Clause.negateIf, h]
  | true =>
      rw [Clause.negateIf, if_pos rfl]
      cases c with
      | spell s =>
          change (if admitsAt place s.scope then some (v.ofSpell s.negate) else none) =
            Option.map _ (if admitsAt place s.scope then some (v.ofSpell s) else none)
          rw [ofSpell_negate]
          split <;> simp
      | group g =>
          obtain ⟨n, members⟩ := g
          simp only [Clause.negate, Clause.value?, Group.value?, Option.map_map]
          congr 1
          funext value
          cases value <;> cases n <;> rfl

theorem value?_constant (h : v .all none none = true) (value : Bool) :
    (Clause.constant value).value? v none = some value := by
  cases value <;>
    simp [Clause.constant, Spell.constant, Clause.value?, admitsAt, Valuation.ofSpell, h]

/-! ### Evaluation without absence -/

theorem value_joinTo (found : Option Outcome) (link : Joiner) (o : Outcome) :
    some (Outcome.joinTo found link o).value =
      link.applyPresent (found.map Outcome.value) (some o.value) := by
  cases found with
  | none => rfl
  | some o' =>
      obtain ⟨a, trace⟩ := o
      obtain ⟨b, trace'⟩ := o'
      cases link <;> cases a <;> cases b <;> rfl

theorem applyPresent_settled {o : Outcome} {link : Joiner} (h : o.settles link = true) (b : Bool) :
    link.applyPresent (some o.value) (some b) = some o.value := by
  cases link <;> simp_all [Outcome.settles, Joiner.applyPresent, Joiner.apply]

mutual

/-- A clause in which no group lacks members has the value that it evaluates to. -/
theorem value?_eq_isTrue : ∀ c : Clause, c.IsInhabited →
    c.value? v none = some (c.isTrue v.ofSpell)
  | .spell s, _ => by simp [Clause.value?, admitsAt, Clause.isTrue, Clause.outcome]
  | .group g, h => by
      rw [Clause.value?, valueGroup?_eq_isTrue g h, Group.isTrue, Clause.isTrue, Clause.outcome]

theorem valueGroup?_eq_isTrue : ∀ g : Group, g.IsInhabited →
    g.value? v none = some (g.isTrue v.ofSpell)
  | ⟨negated, members⟩, h => by
      have hf := foldValue?_eq_foldOutcome members none .or h.2 (Or.inr h.1)
      obtain ⟨o, ho⟩ := Option.isSome_iff_exists.1 hf.2
      rw [Option.map_none, ho] at hf
      rw [Group.value?, Group.isTrue, Group.outcome, hf.1, ho]
      rfl

theorem foldValue?_eq_foldOutcome : ∀ (members : List Member) (found : Option Outcome)
    (link : Joiner), Group.AllInhabited members → found.isSome ∨ members ≠ [] →
    Group.foldValue? v none (found.map Outcome.value) link members =
      (Group.foldOutcome v.ofSpell found link members).map Outcome.value ∧
    (Group.foldOutcome v.ofSpell found link members).isSome
  | [], found, link, _, hs => by
      rw [Group.foldValue?, Group.foldOutcome]
      exact ⟨rfl, hs.resolve_right fun h => h rfl⟩
  | ⟨c, joiner⟩ :: rest, found, link, h, _ => by
      have hc : c.value? v none = some (c.outcome v.ofSpell).value := value?_eq_isTrue c h.1
      rw [Group.foldValue?, Group.foldOutcome, hc]
      split
      · rename_i hsettled
        obtain ⟨o, rfl, ho⟩ := (Option.any_eq_true _ _).1 hsettled
        rw [Option.map_some, applyPresent_settled ho, ← Option.map_some]
        exact foldValue?_eq_foldOutcome rest (some o) joiner h.2 (Or.inl rfl)
      · rw [← value_joinTo, ← Option.map_some]
        exact foldValue?_eq_foldOutcome rest _ joiner h.2 (Or.inl rfl)

end

end PostFilter.Canonical
