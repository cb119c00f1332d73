import PostFilter.Proofs.Dispatch.Moves

/-!
# Dispatch — the places of workers

A dispatch knows runs by their numbers only. `Crew.Placed` says that these are the numbers of the
workers that belong there: the calls that the dispatch has under way are the calls of workers, and
whoever queues for a permit or was handed one is a worker that waits. So a permit is never held for
somebody who is done or was given up.
-/

namespace PostFilter

variable {κ : Type} {Answer : κ → Type} {α : Type}

theorem Dispatch.Balanced.withPause {d : Dispatch} {inHand : Nat} (h : d.Balanced inHand)
    (pause : PauseState) : Dispatch.Balanced inHand { d with pause := pause } :=
  ⟨h.permits, h.nodup, h.idle⟩

/-- A worker that waits has no call under way. -/
theorem Worker.isCalling_of_isWaiting {w : Worker κ Answer α} (h : w.isWaiting = true) :
    w.isCalling = false := by
  have hphase := eq_of_beq (Bool.and_eq_true_iff.1 h).1
  rw [isCalling, hphase]
  rfl

namespace Crew

/-- Whether permits and calls belong to the workers that they should. -/
structure Placed (limit : Nat) (c : Crew κ Answer α) : Prop where
  limit : c.dispatch.limit = max 1 limit
  balanced : c.dispatch.Balanced 0
  calling : ∀ n, n ∈ c.dispatch.calling ↔ ∃ w, c.workers[n]? = some w ∧ w.isCalling = true
  waiting : ∀ n ∈ c.dispatch.waiting, ∃ w, c.workers[n]? = some w ∧ w.isWaiting = true
  count : c.dispatch.calling.length = c.workers.countP Worker.isCalling

variable {limit n : Nat} {c c' : Crew κ Answer α} {w : Worker κ Answer α}

theorem placed_ofLimit (limit : Nat) : (ofLimit limit : Crew κ Answer α).Placed limit :=
  ⟨rfl, Dispatch.balanced_ofLimit limit,
    fun _ => ⟨fun h => absurd h List.not_mem_nil, fun ⟨_, h, _⟩ => nomatch h⟩,
    fun _ h => absurd h List.not_mem_nil, rfl⟩

theorem Placed.not_mem_calling (h : c.Placed limit) (hw : c.workers[n]? = some w)
    (hwaiting : w.isWaiting = true) : n ∉ c.dispatch.calling := by
  intro hn
  obtain ⟨w', hw', hcalling⟩ := (h.calling n).1 hn
  obtain rfl := Option.some.inj (hw.symm.trans hw')
  rw [Worker.isCalling_of_isWaiting hwaiting] at hcalling
  cases hcalling

/-- When worker `n` is put in another state, the calls under way are right again if the other ones
stay and that of `n` is. -/
theorem calling_set {d : Dispatch} {w' : Worker κ Answer α} (h : c.Placed limit)
    (hw : c.workers[n]? = some w) (hother : ∀ m, n ≠ m → (m ∈ d.calling ↔ m ∈ c.dispatch.calling))
    (hself : n ∈ d.calling ↔ w'.isCalling = true) (m : Nat) :
    m ∈ d.calling ↔ ∃ v, (c.workers.set n w')[m]? = some v ∧ v.isCalling = true := by
  rw [getElem?_set_of_some hw]
  by_cases hm : n = m
  · subst hm
    rw [if_pos rfl, hself]
    exact ⟨fun h => ⟨w', rfl, h⟩, fun ⟨v, hv, h⟩ => Option.some.inj hv ▸ h⟩
  · rw [if_neg hm, hother m hm]
    exact h.calling m

/-- The same for those who wait, if `n` is none of them. -/
theorem waiting_set {d : Dispatch} {w' : Worker κ Answer α} (h : c.Placed limit)
    (hw : c.workers[n]? = some w) (hother : ∀ m ∈ d.waiting, n ≠ m ∧ m ∈ c.dispatch.waiting)
    (m : Nat) (hm : m ∈ d.waiting) :
    ∃ v, (c.workers.set n w')[m]? = some v ∧ v.isWaiting = true := by
  obtain ⟨hne, hm⟩ := hother m hm
  rw [getElem?_set_of_some hw, if_neg hne]
  exact h.waiting m hm

theorem Placed.join (h : c.Placed limit) (task : Inquiry κ Answer α) (script : Script κ Answer) :
    Placed limit { c with workers := c.workers ++ [{ task := task, script := script }] } := by
  refine ⟨h.limit, h.balanced, fun m => (h.calling m).trans ?_, fun m hm => ?_, ?_⟩
  · constructor
    · rintro ⟨w, hw, hcalling⟩
      exact ⟨w, getElem?_concat_eq_some.2 (Or.inl hw), hcalling⟩
    · rintro ⟨w, hw, hcalling⟩
      rcases getElem?_concat_eq_some.1 hw with hw | ⟨-, rfl⟩
      · exact ⟨w, hw, hcalling⟩
      · cases hcalling
  · obtain ⟨w, hw, hwaiting⟩ := h.waiting m hm
    exact ⟨w, getElem?_concat_eq_some.2 (Or.inl hw), hwaiting⟩
  · exact h.count.trans (by rw [List.countP_append]; rfl)

/-- A poll that starts no call leaves everybody at a place that is theirs. -/
theorem Placed.wait (h : c.Placed limit) (hw : c.workers[n]? = some w)
    (hwaiting : w.isWaiting = true) (hcall : n ∉ (c.dispatch.poll c.now n).calling) :
    Placed limit { c with dispatch := c.dispatch.poll c.now n } := by
  have hn := h.not_mem_calling hw hwaiting
  have hpoll := Dispatch.pollOutcome h.balanced hn c.now
  refine ⟨(Dispatch.limit_poll ..).trans h.limit, h.balanced.poll hn c.now, fun m => ?_,
    fun m hm => ?_, (hpoll.unstarted hcall).2.trans h.count⟩
  · rw [hpoll.calling m, ← h.calling m]
    exact ⟨fun hm => hm.elim id fun hm => absurd hm.2 hcall, Or.inl⟩
  · rcases hpoll.waiting m hm with hm | rfl
    · exact h.waiting m hm
    · exact ⟨w, hw, hwaiting⟩

theorem Placed.start (h : c.Placed limit) (hw : c.workers[n]? = some w)
    (hwaiting : w.isWaiting = true) (hcall : n ∈ (c.dispatch.poll c.now n).calling) :
    (c.started n w).Placed limit := by
  have hn := h.not_mem_calling hw hwaiting
  have hpoll := Dispatch.pollOutcome h.balanced hn c.now
  have hbalanced := h.balanced.poll hn c.now
  refine ⟨(Dispatch.limit_poll ..).trans h.limit, hbalanced,
    calling_set h hw (fun m hm => ?_) ⟨fun _ => rfl, fun _ => hcall⟩,
    waiting_set h hw fun m hm => ?_, ?_⟩
  · refine (hpoll.calling m).trans ?_
    exact ⟨fun hmem => hmem.elim id fun hmem => absurd hmem.1.symm hm, Or.inl⟩
  · have hne : n ≠ m := by
      rintro rfl
      exact hbalanced.not_mem_waiting hcall hm
    exact ⟨hne, (hpoll.waiting m hm).resolve_right hne.symm⟩
  · have hcount := countP_set_of_some hw { w with phase := .calling } Worker.isCalling
    rw [Worker.isCalling_of_isWaiting hwaiting] at hcount
    exact (hpoll.started hcall).2.2.trans ((congrArg (· + 1) h.count).trans hcount.symm)

/-- When worker `n` is put in a state without a call, the calls under way are right again if that of
`n` is taken away. -/
theorem calling_erase {d : Dispatch} {w' : Worker κ Answer α} (h : c.Placed limit)
    (hw : c.workers[n]? = some w) (hd : d.calling = c.dispatch.calling.erase n)
    (hw' : w'.isCalling = false) (m : Nat) :
    m ∈ d.calling ↔ ∃ v, (c.workers.set n w')[m]? = some v ∧ v.isCalling = true := by
  have hmem (m : Nat) : m ∈ d.calling ↔ m ≠ n ∧ m ∈ c.dispatch.calling := by
    rw [hd]
    exact h.balanced.nodup_calling.mem_erase_iff
  refine calling_set h hw (fun m hm => ?_) ?_ m
  · exact (hmem m).trans ⟨fun hmem => hmem.2, fun hmem => ⟨hm.symm, hmem⟩⟩
  · rw [hw']
    exact (hmem n).trans ⟨fun hmem => absurd rfl hmem.1, fun hmem => nomatch hmem⟩

/-- One call less is under way then, if there was one. -/
theorem count_erase {d : Dispatch} {w' : Worker κ Answer α} (h : c.Placed limit)
    (hw : c.workers[n]? = some w) (hd : d.calling = c.dispatch.calling.erase n)
    (hw' : w'.isCalling = false) :
    d.calling.length = (c.workers.set n w').countP Worker.isCalling := by
  have hcount := countP_set_of_some hw w' Worker.isCalling
  rw [hw', ← h.count] at hcount
  rw [hd]
  by_cases hn : n ∈ c.dispatch.calling
  · obtain ⟨v, hv, hcalling⟩ := (h.calling n).1 hn
    obtain rfl := Option.some.inj (hw.symm.trans hv)
    rw [hcalling] at hcount
    rw [List.length_erase_of_mem hn]
    exact (Nat.eq_sub_of_add_eq hcount).symm
  · have hcalling : w.isCalling = false :=
      Bool.eq_false_iff.2 fun hcalling => hn ((h.calling n).2 ⟨w, hw, hcalling⟩)
    rw [hcalling] at hcount
    rw [List.erase_of_not_mem hn]
    exact hcount.symm

theorem Placed.finish (h : c.Placed limit) (hw : c.workers[n]? = some w)
    (hcalling : w.isCalling = true) : (c.ended n w).Placed limit := by
  have hn : n ∈ c.dispatch.calling := (h.calling n).2 ⟨w, hw, hcalling⟩
  have hd := Dispatch.calling_finish c.dispatch c.now n (w.left.backoff? w.reply)
  refine ⟨(Dispatch.limit_finish ..).trans h.limit, h.balanced.finish hn _ _,
    calling_erase h hw hd rfl, waiting_set h hw fun m hm => ?_, count_erase h hw hd rfl⟩
  have hm : m ∈ c.dispatch.waiting := Dispatch.mem_waiting_finish.1 hm
  refine ⟨?_, hm⟩
  rintro rfl
  exact h.balanced.not_mem_waiting hn hm

theorem Placed.drop (h : c.Placed limit) (hw : c.workers[n]? = some w) :
    (c.dropped n w).Placed limit := by
  have hd := Dispatch.calling_abandon c.dispatch n
  refine ⟨(Dispatch.limit_abandon ..).trans h.limit, h.balanced.abandon n,
    calling_erase h hw hd rfl, waiting_set h hw fun m hm => ?_, count_erase h hw hd rfl⟩
  obtain ⟨hm, hne⟩ := (Dispatch.mem_waiting_abandon h.balanced).1 hm
  exact ⟨hne.symm, hm⟩

/-- Every move leaves permits and calls with the workers to whom they belong. -/
theorem Placed.move (h : c.Placed limit) (hmove : Move c c') : c'.Placed limit := by
  cases hmove with
  | pass length => exact ⟨h.limit, h.balanced, h.calling, h.waiting, h.count⟩
  | pause pause => exact ⟨h.limit, h.balanced.withPause _, h.calling, h.waiting, h.count⟩
  | resume => exact ⟨h.limit, h.balanced.withPause _, h.calling, h.waiting, h.count⟩
  | expire deadline _ => exact ⟨h.limit, h.balanced.withPause _, h.calling, h.waiting, h.count⟩
  | join task script => exact h.join task script
  | wait hw hwaiting hcall => exact h.wait hw hwaiting hcall
  | start hw hwaiting hcall => exact h.start hw hwaiting hcall
  | finish hw hcalling => exact h.finish hw hcalling
  | drop hw _ => exact h.drop hw

/-- **Permits and calls belong to the workers that they should, at every moment.** -/
theorem placed_after (limit : Nat) (events : List (CrewEvent κ Answer α)) :
    (after limit events).Placed limit :=
  after_of_moves (placed_ofLimit limit) Placed.move events

end Crew

end PostFilter
