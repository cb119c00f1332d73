import Mathlib.Logic.Relation
import PostFilter.Dispatch.Crew
import PostFilter.Proofs.Dispatch.Permits

/-!
# Dispatch — the moves of a crew

An event may take a worker through several calls. `Crew.Move` says what a crew can do at once, and
every event is some moves one after another (`Crew.apply_moves`). So what holds at the start and is
kept by every move holds after every list of events (`Crew.after_of_moves`).

A move puts at most one worker in another state or adds one; the lemmas on lists say what that means
for the worker at a place and for the number of workers of a kind.
-/

namespace PostFilter

/-! ### One worker of a list -/

section Lists

variable {β : Type} {l : List β} {n m : Nat} {w w' : β}

theorem getElem?_set_of_some (hw : l[n]? = some w) (w' : β) (m : Nat) :
    (l.set n w')[m]? = if n = m then some w' else l[m]? := by
  obtain ⟨hn, -⟩ := List.getElem?_eq_some_iff.1 hw
  rw [List.getElem?_set, if_pos hn]

/-- Replacing one element changes the number of those with a property by that one only. -/
theorem countP_set_of_some (hw : l[n]? = some w) (w' : β) (p : β → Bool) :
    (l.set n w').countP p + (p w).toNat = l.countP p + (p w').toNat := by
  obtain ⟨hn, rfl⟩ := List.getElem?_eq_some_iff.1 hw
  rw [List.countP_set hn]
  cases hp : p l[n] with
  | false => cases p w' <;> rfl
  | true =>
      have hpos : 0 < l.countP p := List.countP_pos_iff.2 ⟨l[n], List.getElem_mem hn, hp⟩
      rw [if_pos rfl]
      cases p w' with
      | false => exact Nat.sub_add_cancel hpos
      | true => exact congrArg (· + 1) (Nat.sub_add_cancel hpos)

theorem countP_cons_toNat (p : β → Bool) (w : β) (l : List β) :
    (w :: l).countP p = l.countP p + (p w).toNat := by
  rw [List.countP_cons]
  cases p w <;> rfl

theorem getElem?_concat_eq_some :
    (l ++ [w'])[n]? = some w ↔ l[n]? = some w ∨ (n = l.length ∧ w = w') := by
  rw [List.getElem?_append]
  split
  · rename_i hn
    exact ⟨Or.inl, fun h => h.elim id fun h => absurd h.1 (Nat.ne_of_lt hn)⟩
  · rename_i hn
    rw [List.getElem?_singleton, List.getElem?_eq_none (Nat.le_of_not_lt hn)]
    constructor
    · intro h
      split at h
      · exact Or.inr ⟨by omega, (Option.some.inj h).symm⟩
      · cases h
    · rintro (h | ⟨rfl, rfl⟩)
      · cases h
      · rw [if_pos (Nat.sub_self _)]

end Lists

namespace Crew

variable {κ : Type} {Answer : κ → Type} {α : Type} {c c' : Crew κ Answer α}

/-- The crew behind a move that starts the call of worker `n`. -/
def started (c : Crew κ Answer α) (n : Nat) (w : Worker κ Answer α) : Crew κ Answer α :=
  { c with
    dispatch := c.dispatch.poll c.now n
    workers := c.workers.set n { w with phase := .calling }
    starts := ⟨n, c.now, (c.dispatch.poll c.now n).pause⟩ :: c.starts }

/-- The crew behind a move that ends the call of worker `n`. -/
def ended (c : Crew κ Answer α) (n : Nat) (w : Worker κ Answer α) : Crew κ Answer α :=
  { c with
    dispatch := c.dispatch.finish c.now n (w.left.backoff? w.reply)
    workers := c.workers.set n w.goOn
    ends := ⟨n, w.left.backoff? w.reply⟩ :: c.ends
    history :=
      ((w.left.backoff? w.reply).map fun pause => some ⟨c.now, pause⟩).toList ++ c.history }

/-- The crew behind a move that drops worker `n`. -/
def dropped (c : Crew κ Answer α) (n : Nat) (w : Worker κ Answer α) : Crew κ Answer α :=
  { c with
    dispatch := c.dispatch.abandon n
    workers := c.workers.set n { w with phase := .dropped w.isCalling } }

/-- What a crew can do at once. -/
inductive Move (c : Crew κ Answer α) : Crew κ Answer α → Prop where
  | pass (length : Nat) : Move c { c with now := c.now + length }
  | pause (pause : Pause) : Move c
      { c with
        dispatch := c.dispatch.suspend c.now pause
        history := some ⟨c.now, pause⟩ :: c.history }
  | resume : Move c { c with dispatch := c.dispatch.resume, history := none :: c.history }
  | expire (deadline : Nat) (h : deadline ≤ c.now) : Move c
      { c with dispatch := { c.dispatch with pause := c.dispatch.pause.expire deadline } }
  | join (task : Inquiry κ Answer α) (script : Script κ Answer) : Move c
      { c with workers := c.workers ++ [{ task := task, script := script }] }
  | wait {n : Nat} {w : Worker κ Answer α} (hw : c.workers[n]? = some w)
      (hwaiting : w.isWaiting = true) (hcall : n ∉ (c.dispatch.poll c.now n).calling) :
      Move c { c with dispatch := c.dispatch.poll c.now n }
  | start {n : Nat} {w : Worker κ Answer α} (hw : c.workers[n]? = some w)
      (hwaiting : w.isWaiting = true) (hcall : n ∈ (c.dispatch.poll c.now n).calling) :
      Move c (c.started n w)
  | finish {n : Nat} {w : Worker κ Answer α} (hw : c.workers[n]? = some w)
      (hcalling : w.isCalling = true) : Move c (c.ended n w)
  | drop {n : Nat} {w : Worker κ Answer α} (hw : c.workers[n]? = some w)
      (hpending : w.isPending = true) : Move c (c.dropped n w)

/-- **What a move can do to a worker**: at the end of a call what is left of its inquiry goes on
with the reply; else it stays, and the script always does. -/
theorem Move.worker {n : Nat} {w : Worker κ Answer α} (hmove : Move c c')
    (hw : c.workers[n]? = some w) :
    ∃ w', c'.workers[n]? = some w' ∧ w'.script = w.script ∧
      (w'.left = w.left ∨ w'.left = w.left.proceed w.reply) := by
  -- A move that puts a worker in another state does so to `n` or leaves `n` alone.
  have set {m : Nat} {v v' : Worker κ Answer α} (hv : c.workers[m]? = some v)
      (hscript : v'.script = v.script) (hleft : v'.left = v.left ∨ v'.left = v.left.proceed v.reply) :
      ∃ w', (c.workers.set m v')[n]? = some w' ∧ w'.script = w.script ∧
        (w'.left = w.left ∨ w'.left = w.left.proceed w.reply) := by
    rw [getElem?_set_of_some hv]
    by_cases hm : m = n
    · subst hm
      obtain rfl := Option.some.inj (hv.symm.trans hw)
      exact ⟨v', if_pos rfl, hscript, hleft⟩
    · exact ⟨w, (if_neg hm).trans hw, rfl, Or.inl rfl⟩
  cases hmove with
  | pass _ => exact ⟨w, hw, rfl, Or.inl rfl⟩
  | pause _ => exact ⟨w, hw, rfl, Or.inl rfl⟩
  | resume => exact ⟨w, hw, rfl, Or.inl rfl⟩
  | expire _ _ => exact ⟨w, hw, rfl, Or.inl rfl⟩
  | wait _ _ _ => exact ⟨w, hw, rfl, Or.inl rfl⟩
  | join _ _ => exact ⟨w, getElem?_concat_eq_some.2 (Or.inl hw), rfl, Or.inl rfl⟩
  | start hv _ _ => exact set hv rfl (Or.inl rfl)
  | finish hv _ => exact set hv rfl (Or.inr rfl)
  | drop hv _ => exact set hv rfl (Or.inl rfl)

open Relation (ReflTransGen)

theorem advance_moves (c : Crew κ Answer α) (n : Nat) : ReflTransGen Move c (c.advance n) := by
  rw [advance]
  split
  · exact .refl
  · rename_i w hw
    split
    · rename_i hwaiting
      dsimp only
      split
      · rename_i hcall
        exact .single (.start hw hwaiting (List.contains_iff_mem.1 hcall))
      · rename_i hcall
        exact .single (.wait hw hwaiting (mt List.contains_iff_mem.2 hcall))
    · exact .refl

theorem answer_moves (c : Crew κ Answer α) (n : Nat) : ReflTransGen Move c (c.answer n) := by
  rw [answer]
  split
  · exact .refl
  · rename_i w hw
    split
    · rename_i hcalling
      exact .single (.finish hw hcalling)
    · exact .refl

/-- A poll is some moves: at each end of a call, the end and the way to the next call. -/
theorem poll_moves (n ends : Nat) (c : Crew κ Answer α) : ReflTransGen Move c (c.poll n ends) := by
  induction ends generalizing c with
  | zero => exact advance_moves c n
  | succ ends ih => exact (advance_moves c n).trans ((answer_moves _ n).trans (ih _))

theorem drop_moves (c : Crew κ Answer α) (n : Nat) : ReflTransGen Move c (c.drop n) := by
  rw [Crew.drop]
  split
  · exact .refl
  · rename_i w hw
    split
    · rename_i hpending
      exact .single (.drop hw hpending)
    · exact .refl

/-- **Every event is some moves.** -/
theorem apply_moves (c : Crew κ Answer α) (event : CrewEvent κ Answer α) :
    ReflTransGen Move c (c.apply event) := by
  cases event with
  | pass length => exact .single (.pass length)
  | pause pause => exact .single (.pause pause)
  | resume => exact .single .resume
  | expire deadline =>
      rw [apply]
      split
      · rename_i h
        exact .single (.expire deadline h)
      · exact .refl
  | join task script => exact .single (.join task script)
  | poll n ends => exact poll_moves n ends c
  | drop n => exact drop_moves c n

theorem run_moves (c : Crew κ Answer α) (events : List (CrewEvent κ Answer α)) :
    ReflTransGen Move c (c.run events) := by
  induction events generalizing c with
  | nil => exact .refl
  | cons event events ih => exact (c.apply_moves event).trans (ih _)

/-- What every move keeps is kept. -/
theorem of_moves {P : Crew κ Answer α → Prop} (step : ∀ {c c'}, P c → Move c c' → P c')
    (hc : P c) (h : ReflTransGen Move c c') : P c' := by
  induction h with
  | refl => exact hc
  | tail _ hmove ih => exact step ih hmove

/-- **What holds at the start and is kept by every move holds after every list of events.** -/
theorem after_of_moves {P : Crew κ Answer α → Prop} {limit : Nat} (start : P (ofLimit limit))
    (step : ∀ {c c'}, P c → Move c c' → P c') (events : List (CrewEvent κ Answer α)) :
    P (after limit events) :=
  of_moves step start (run_moves _ events)

end Crew

end PostFilter
