import PostFilter.Proofs.Dispatch.Records

/-!
# Dispatch — safety

What happens to a crew may happen in any order: workers join, are polled and are dropped, pauses
begin and end, and time passes. `Crew.IsSafe` lists what holds nevertheless, and
`Crew.isSafe_after` shows it after every list of events.

- No permit is lost or made. A call is under way only while its run holds one, so no more calls are
  under way than there are permits.
- No call is started during a pause.
- A run makes one call and one more for each request for a pause, and its value is what its own
  first other call came to.
- The counts of the dispatch are those of the calls that were made.
-/

namespace PostFilter

variable {κ : Type} {Answer : κ → Type} {α : Type}

namespace Worker

variable {w : Worker κ Answer α}

theorem hasOpenCall_of_isWaiting (h : w.isWaiting = true) : w.hasOpenCall = false := by
  rw [hasOpenCall, isCalling_of_isWaiting h, isCutShort_of_isPending (isPending_of_isWaiting h)]
  rfl

theorem hasOpenCall_of_isCalling (h : w.isCalling = true) : w.hasOpenCall = true := by
  rw [hasOpenCall, h]
  rfl

/-- A call stays open when its worker is dropped. -/
theorem hasOpenCall_dropped (h : w.isPending = true) :
    hasOpenCall { w with phase := .dropped w.isCalling } = w.hasOpenCall := by
  have hcut := isCutShort_of_isPending h
  rw [hasOpenCall, hasOpenCall, hcut, Bool.or_false]
  cases w.isCalling <;> rfl

/-- Every open call is under way or was cut short, and none is both. -/
theorem countP_hasOpenCall (workers : List (Worker κ Answer α)) :
    workers.countP hasOpenCall = workers.countP isCalling + workers.countP isCutShort := by
  induction workers with
  | nil => rfl
  | cons w workers ih =>
      have hone : w.hasOpenCall.toNat = w.isCalling.toNat + w.isCutShort.toNat := by
        rw [hasOpenCall, isCalling, isCutShort]
        cases w.phase with
        | dropped duringCall => cases duringCall <;> rfl
        | _ => rfl
      rw [countP_cons_toNat, countP_cons_toNat, countP_cons_toNat, ih, hone]
      omega

end Worker

namespace Crew

variable {limit n : Nat} {c c' : Crew κ Answer α} {w : Worker κ Answer α}

/-! ### The counts -/

/-- Whether the counts agree with the books, every start is accounted for, and none was made during
a pause. -/
structure Counted (c : Crew κ Answer α) : Prop where
  dispatched : c.dispatch.dispatched = c.starts.length
  backoffs : c.dispatch.backoffs = c.ends.countP fun e => e.backoff.isSome
  starts : c.starts.length = c.ends.length + c.workers.countP Worker.hasOpenCall
  unpaused : ∀ s ∈ c.starts, s.pause.isPaused s.time = false

theorem counted_ofLimit (limit : Nat) : (ofLimit limit : Crew κ Answer α).Counted :=
  ⟨rfl, rfl, rfl, fun _ h => absurd h List.not_mem_nil⟩

theorem Counted.start (h : c.Counted) (hplaced : c.Placed limit) (hw : c.workers[n]? = some w)
    (hwaiting : w.isWaiting = true) (hcall : n ∈ (c.dispatch.poll c.now n).calling) :
    (c.started n w).Counted := by
  have hpoll := Dispatch.pollOutcome hplaced.balanced (hplaced.not_mem_calling hw hwaiting) c.now
  obtain ⟨hpause, hdispatched, -⟩ := hpoll.started hcall
  refine ⟨hdispatched.trans (congrArg (· + 1) h.dispatched), hpoll.backoffs.trans h.backoffs, ?_,
    fun s hs => ?_⟩
  · have hopen := countP_set_of_some hw { w with phase := .calling } Worker.hasOpenCall
    rw [Worker.hasOpenCall_of_isWaiting hwaiting] at hopen
    change c.starts.length + 1 = c.ends.length + List.countP _ (c.workers.set n _)
    rw [h.starts, Nat.add_assoc]
    exact congrArg (c.ends.length + ·) hopen.symm
  · rcases List.mem_cons.1 hs with rfl | hs
    · exact hpause
    · exact h.unpaused s hs

theorem Counted.finish (h : c.Counted) (hw : c.workers[n]? = some w)
    (hcalling : w.isCalling = true) : (c.ended n w).Counted := by
  refine ⟨(Dispatch.dispatched_finish ..).trans h.dispatched, ?_, ?_, h.unpaused⟩
  · change (c.dispatch.finish c.now n (w.left.backoff? w.reply)).backoffs =
      List.countP _ (⟨n, w.left.backoff? w.reply⟩ :: c.ends)
    rw [Dispatch.finish_eq, countP_cons_toNat, ← h.backoffs]
    cases w.left.backoff? w.reply <;> rfl
  · have hopen := countP_set_of_some hw w.goOn Worker.hasOpenCall
    rw [Worker.hasOpenCall_of_isCalling hcalling] at hopen
    change c.starts.length = (c.ends.length + 1) + List.countP _ (c.workers.set n _)
    rw [h.starts, Nat.add_assoc, Nat.add_comm 1]
    exact congrArg (c.ends.length + ·) hopen.symm

theorem Counted.drop (h : c.Counted) (hw : c.workers[n]? = some w)
    (hpending : w.isPending = true) : (c.dropped n w).Counted := by
  obtain ⟨hdispatched, hbackoffs⟩ := c.dispatch.counts_abandon n
  refine ⟨hdispatched.trans h.dispatched, hbackoffs.trans h.backoffs, h.starts.trans ?_, h.unpaused⟩
  have hopen := countP_set_of_some hw { w with phase := .dropped w.isCalling } Worker.hasOpenCall
  rw [Worker.hasOpenCall_dropped hpending] at hopen
  exact congrArg (c.ends.length + ·) (Nat.add_right_cancel hopen).symm

/-- Every move keeps the counts right. -/
theorem Counted.move (h : c.Counted) (hplaced : c.Placed limit) (hmove : Move c c') :
    c'.Counted := by
  cases hmove with
  | pass length => exact ⟨h.dispatched, h.backoffs, h.starts, h.unpaused⟩
  | pause pause => exact ⟨h.dispatched, h.backoffs, h.starts, h.unpaused⟩
  | resume => exact ⟨h.dispatched, h.backoffs, h.starts, h.unpaused⟩
  | expire deadline _ => exact ⟨h.dispatched, h.backoffs, h.starts, h.unpaused⟩
  | join task script =>
      refine ⟨h.dispatched, h.backoffs, h.starts.trans ?_, h.unpaused⟩
      rw [List.countP_append]
      rfl
  | @wait n w hw hwaiting hcall =>
      have hpoll :=
        Dispatch.pollOutcome hplaced.balanced (hplaced.not_mem_calling hw hwaiting) c.now
      exact ⟨(hpoll.unstarted hcall).1.trans h.dispatched, hpoll.backoffs.trans h.backoffs,
        h.starts, h.unpaused⟩
  | start hw hwaiting hcall => exact h.start hplaced hw hwaiting hcall
  | finish hw hcalling => exact h.finish hw hcalling
  | drop hw hpending => exact h.drop hw hpending

theorem counted_after (limit : Nat) (events : List (CrewEvent κ Answer α)) :
    (after limit events).Counted :=
  (after_of_moves (P := fun c => c.Placed limit ∧ c.Counted)
    ⟨placed_ofLimit limit, counted_ofLimit limit⟩
    (fun h hmove => ⟨h.1.move hmove, h.2.move h.1 hmove⟩) events).2

/-! ### Finished runs -/

/-- Whether every worker is a run. -/
def OnlyRuns (c : Crew κ Answer α) : Prop :=
  ∀ (n : Nat) (w : Worker κ Answer α), c.workers[n]? = some w → w.task.IsRun

/-- The calls that came to an answer. -/
def answered (c : Crew κ Answer α) : Nat := c.ends.countP fun e => e.backoff.isNone

/-- The workers that are done. -/
def finished (c : Crew κ Answer α) : Nat := c.workers.countP fun w => w.value?.isSome

theorem onlyRuns_of_set {w' : Worker κ Answer α} (hw : c.workers[n]? = some w)
    (hworkers : c'.workers = c.workers.set n w') (htask : w'.task = w.task)
    (hruns : c'.OnlyRuns) : c.OnlyRuns := by
  intro m v hv
  have hset := getElem?_set_of_some hw w' m
  rw [← hworkers] at hset
  by_cases hm : n = m
  · subst hm
    rw [if_pos rfl] at hset
    obtain rfl := Option.some.inj (hw.symm.trans hv)
    exact htask ▸ hruns n w' hset
  · rw [if_neg hm] at hset
    exact hruns m v (hset.trans hv)

/-- A worker that is put in another state counts as finished in it if it is done there. -/
theorem finished_set {w' : Worker κ Answer α} (hw : c.workers[n]? = some w)
    (hworkers : c'.workers = c.workers.set n w') (hpending : w.isPending = true) :
    c'.finished = c.finished + w'.value?.isSome.toNat := by
  have hcount := countP_set_of_some hw w' fun w => w.value?.isSome
  rw [Worker.isSome_value_of_isPending hpending] at hcount
  rw [finished, hworkers]
  exact hcount

/-- Among runs, as many calls were answered as workers are done. -/
theorem answered_move (h : c.OnlyRuns → c.answered = c.finished) (hrecorded : c.Recorded)
    (hmove : Move c c') (hruns : c'.OnlyRuns) : c'.answered = c'.finished := by
  cases hmove with
  | pass length => exact h hruns
  | pause pause => exact h hruns
  | resume => exact h hruns
  | expire deadline _ => exact h hruns
  | wait _ _ _ => exact h hruns
  | join task script =>
      obtain ⟨key, f, htask⟩ := hruns _ _ (getElem?_concat_eq_some.2 (Or.inr ⟨rfl, rfl⟩))
      refine (h fun n w hw => hruns n w (getElem?_concat_eq_some.2 (Or.inl hw))).trans ?_
      change _ = List.countP _ (c.workers ++ [{ task := task, script := script }])
      rw [List.countP_append, show task = _ from htask]
      rfl
  | @start n w hw hwaiting _ =>
      have hworkers : (c.started n w).workers = c.workers.set n { w with phase := .calling } := rfl
      rw [finished_set hw hworkers (Worker.isPending_of_isWaiting hwaiting)]
      exact h (onlyRuns_of_set hw hworkers rfl hruns)
  | @finish n w hw hcalling =>
      have hworkers : (c.ended n w).workers = c.workers.set n w.goOn := rfl
      have hruns := onlyRuns_of_set hw hworkers rfl hruns
      have hbooked := hrecorded.booked n w hw
      have hleft := hbooked.left_of_isRun (hruns n w hw) (hbooked.asks_of_isCalling hcalling)
      rw [finished_set hw hworkers (Worker.isPending_of_isCalling hcalling), ← h hruns,
        Worker.isSome_value_goOn hleft (hruns n w hw)]
      exact countP_cons_toNat _ _ c.ends
  | @drop n w hw hpending =>
      have hworkers : (c.dropped n w).workers =
          c.workers.set n { w with phase := .dropped w.isCalling } := rfl
      rw [finished_set hw hworkers hpending]
      exact h (onlyRuns_of_set hw hworkers rfl hruns)

theorem answered_after (limit : Nat) (events : List (CrewEvent κ Answer α)) :
    (after limit events).OnlyRuns → (after limit events).answered = (after limit events).finished :=
  (after_of_moves (P := fun c => c.Recorded ∧ (c.OnlyRuns → c.answered = c.finished))
    ⟨recorded_ofLimit limit, fun _ => rfl⟩
    (fun h hmove => ⟨h.1.move hmove, answered_move h.2 h.1 hmove⟩) events).2

/-! ### Safety -/

/-- What holds of a crew at every moment. -/
structure IsSafe (limit : Nat) (c : Crew κ Answer α) : Prop where
  /-- A call is under way only while its run holds a permit. -/
  calling_holds : ∀ (n : Nat) (w : Worker κ Answer α),
    c.workers[n]? = some w → w.isCalling = true → n ∈ c.dispatch.holders
  /-- A permit is held only for a worker that is neither done nor dropped. -/
  holders_pending : ∀ n ∈ c.dispatch.holders,
    ∃ w : Worker κ Answer α, c.workers[n]? = some w ∧ w.isPending = true
  /-- Nobody holds two permits. -/
  holders_nodup : c.dispatch.holders.Nodup
  /-- Every permit is free or held. -/
  permits : c.dispatch.free + c.dispatch.holders.length = max 1 limit
  /-- No permit is free while somebody queues for one. -/
  idle : c.dispatch.free = 0 ∨ c.dispatch.queue = []
  bounded : c.workers.countP Worker.isCalling ≤ max 1 limit
  /-- No call was started during a pause. -/
  unpaused : ∀ s ∈ c.starts, s.pause.isPaused s.time = false
  /-- A run that is done made one call and one more for each request for a pause, and its value is
  what its own first call came to that did not ask for one. -/
  run_done : ∀ (n : Nat) (w : Worker κ Answer α) key (f : Answer key → α) a, c.workers[n]? = some w →
    w.task = .ask key (fun answer => .done (f answer)) → w.value? = some a →
    c.startsOf n = c.backoffsOf n + 1 ∧ Inquiry.BacksOff w.script key (c.backoffsOf n) ∧
      ∃ answer, w.script (c.backoffsOf n) key = .ok answer ∧ a = f answer
  /-- A run that is not done made one call for each request for a pause, and one more if a call is
  open. -/
  run_open : ∀ (n : Nat) (w : Worker κ Answer α) key (f : Answer key → α), c.workers[n]? = some w →
    w.task = .ask key (fun answer => .done (f answer)) → w.value? = none →
    c.startsOf n = c.backoffsOf n + w.hasOpenCall.toNat ∧
      Inquiry.BacksOff w.script key (c.backoffsOf n)
  /-- Every call that was started is counted. -/
  dispatched : c.dispatch.dispatched = c.starts.length
  /-- It was answered, it asked for a pause, it is under way, or it was cut short. -/
  starts : c.starts.length = c.answered + c.dispatch.backoffs +
    c.workers.countP Worker.isCalling + c.workers.countP Worker.isCutShort
  /-- Every call that asked for a pause is counted. -/
  backoffs : c.dispatch.backoffs = c.ends.countP fun e => e.backoff.isSome
  /-- If all workers are runs, the calls that were answered are those of the runs that are done. -/
  answered : c.OnlyRuns → c.answered = c.finished

/-- **A crew is safe at every moment**, whatever happened and in whatever order. -/
theorem isSafe_after (limit : Nat) (events : List (CrewEvent κ Answer α)) :
    (after limit events).IsSafe limit := by
  have hplaced := placed_after limit events
  have hrecorded := recorded_after limit events
  have hcounted := counted_after limit events
  refine
    { calling_holds := fun n w hw hcalling => ?_
      holders_pending := fun n hn => ?_
      holders_nodup := hplaced.balanced.nodup_holders
      permits := hplaced.balanced.length_holders.trans hplaced.limit
      idle := hplaced.balanced.idle
      bounded := ?_
      unpaused := hcounted.unpaused
      run_done := fun n w key f a hw htask => (hrecorded.booked n w hw).run_done htask
      run_open := fun n w key f hw htask => (hrecorded.booked n w hw).run_open htask
      dispatched := hcounted.dispatched
      starts := ?_
      backoffs := hcounted.backoffs
      answered := answered_after limit events }
  · exact List.mem_append_right _ ((hplaced.calling n).2 ⟨w, hw, hcalling⟩)
  · rcases List.mem_append.1 hn with hn | hn
    · obtain ⟨w, hw, hwaiting⟩ := hplaced.waiting n (List.mem_append_right _ hn)
      exact ⟨w, hw, Worker.isPending_of_isWaiting hwaiting⟩
    · obtain ⟨w, hw, hcalling⟩ := (hplaced.calling n).1 hn
      exact ⟨w, hw, Worker.isPending_of_isCalling hcalling⟩
  · have hpermits := hplaced.balanced.permits
    rw [← hplaced.count, ← hplaced.limit]
    omega
  · have hends := List.length_eq_countP_add_countP (l := (after limit events).ends)
      (fun e : CallEnd => e.backoff.isSome)
    have hnone : ((after limit events).ends.countP fun e => decide ¬e.backoff.isSome = true) =
        (after limit events).answered :=
      List.countP_congr fun e _ => by cases e.backoff <;> simp
    rw [hcounted.starts, hends, hnone, ← hcounted.backoffs, Worker.countP_hasOpenCall]
    omega

/-- Two runs share one permit. The call of the first one asks for a pause just after the second one
queued, so the second one gives its permit back, and neither goes on before the pause is over. -/
example :
    let task : Inquiry Unit (fun _ => Nat) Nat := .single ()
    let script (n : Nat) : Script Unit (fun _ => Nat) :=
      fun call _ => if n + call = 0 then .error (.lasting 5) else .ok n
    let c : Crew Unit (fun _ => Nat) Nat :=
      after 1 [.join task (script 0), .join task (script 1), .poll 0 0, .poll 1 0, .poll 0 1,
        .poll 1 1, .pass 5, .poll 1 1, .poll 0 1]
    c.workers.map Worker.value? = [some 0, some 1] ∧ c.dispatch.dispatched = 3 ∧
      c.dispatch.backoffs = 1 ∧ c.dispatch.free = 1 := by decide

end Crew

end PostFilter
