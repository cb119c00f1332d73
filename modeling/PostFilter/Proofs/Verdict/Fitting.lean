import PostFilter.Verdict.Fitting

/-!
# Verdicts — arguments that fit are examined

The engine has a case for a kind and an argument exactly where the requirement and the shape of the
kind allow the argument (`Spell.isSome_examine?`), and elsewhere the spell is known not to match
(`Spell.examine_of_not_fits`).
-/

namespace PostFilter
namespace Spell

/-- **There is a case for a spell exactly if its argument fits.** -/
theorem isSome_examine? (settings : Settings) (post : Post) (s : Spell) :
    (s.examine? settings post).isSome = s.kind.fits s.argument := by
  obtain ⟨kind, argument, scope, negated⟩ := s
  cases argument with
  | none => cases kind <;> rfl
  | some a => cases a <;> cases kind <;> rfl

/-- Without a case a spell is examined as one that never matches. -/
theorem examine_eq (settings : Settings) (post : Post) (s : Spell) :
    s.examine settings post = (s.examine? settings post).getD (.done (.known false)) := by
  obtain ⟨kind, argument, scope, negated⟩ := s
  cases argument with
  | none => cases kind <;> rfl
  | some a => cases a <;> cases kind <;> rfl

section Fitting

variable (settings : Settings) (post : Post) {s : Spell}

theorem examine?_of_fits (h : s.kind.fits s.argument = true) :
    s.examine? settings post = some (s.examine settings post) := by
  rw [← isSome_examine? settings post] at h
  obtain ⟨value, hvalue⟩ := Option.isSome_iff_exists.1 h
  rw [examine_eq, hvalue]
  rfl

/-- **A spell whose argument does not fit never matches.** -/
theorem examine_of_not_fits (h : s.kind.fits s.argument = false) :
    s.examine settings post = .done (.known false) := by
  rw [← isSome_examine? settings post] at h
  rw [examine_eq, Option.isNone_iff_eq_none.1 (Option.isSome_eq_false_iff.1 h)]
  rfl

end Fitting

end Spell

/-- What a kind may have, it has a use for. -/
theorem Kind.Takes.fits {kind : Kind} : ∀ {argument : Option Argument},
    kind.Takes argument → kind.fits argument = true
  | none, h => bne_iff_ne.2 h
  | some _, h => Bool.or_eq_true_iff.2 (Or.inr (beq_iff_eq.2 h.2.1))

mutual

/-- **The spells of a well-formed clause are well-formed.** -/
theorem Clause.IsWellFormed.spells : ∀ {c : Clause}, c.IsWellFormed →
    ∀ s ∈ c.spells, s.IsWellFormed
  | .spell _, h => List.forall_mem_singleton.2 h
  | .group ⟨_, members⟩, h => memberSpells_isWellFormed members h

theorem memberSpells_isWellFormed : ∀ members : List Member, Group.MembersWellFormed members →
    ∀ s ∈ Group.memberSpells members, s.IsWellFormed
  | [⟨c, j⟩], h, s, hs => by
      rw [Group.memberSpells, Group.memberSpells, List.append_nil] at hs
      exact Clause.IsWellFormed.spells h.1 s hs
  | ⟨c, j⟩ :: m :: rest, h, s, hs => by
      rw [Group.memberSpells] at hs
      rcases List.mem_append.1 hs with hs | hs
      · exact Clause.IsWellFormed.spells h.1 s hs
      · exact memberSpells_isWellFormed (m :: rest) h.2 s hs

end

/-- **A well-formed group is examined by the cases of its kinds alone.** -/
theorem Group.IsWellFormed.fits {g : Group} (h : g.IsWellFormed) : g.Fits :=
  fun s hs settings post => Spell.examine?_of_fits settings post
    (Clause.IsWellFormed.spells (c := .group g) h s hs).argument.fits

end PostFilter
