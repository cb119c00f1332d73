import PostFilter.Proofs.Dispatch.Placement

/-!
# Dispatch — the books of a crew

Where a worker stands can be read off the calls it made: what is left of its inquiry is what its
script leaves after the calls that came to an end, and there was one start for each of them and one
for the call that is open (`Worker.Booked`). For a worker that asks one question, a run, this is the
whole story of its calls: requests for pauses, and then at most one answer (`Inquiry.after_run`).

The counts of the dispatch agree with the books (`Crew.Counted`).
-/

namespace PostFilter

variable {κ : Type} {Answer : κ → Type} {α : Type}

/-! ### Calls of an inquiry -/

namespace Inquiry

/-- How many of the first calls ask for a pause. -/
def backoffs (script : Script κ Answer) (i : Inquiry κ Answer α) : (calls : Nat) → Nat
  | 0 => 0
  | calls + 1 =>
    i.backoffs script calls + ((i.after script calls).backoff? (script calls)).isSome.toNat

/-- Whether an inquiry is one question and nothing else: a run. -/
def IsRun (i : Inquiry κ Answer α) : Prop :=
  ∃ (key : κ) (f : Answer key → α), i = .ask key fun answer => .done (f answer)

/-- Whether the first calls for a question ask for pauses. -/
def BacksOff (script : Script κ Answer) (key : κ) (calls : Nat) : Prop :=
  ∀ j < calls, ∃ pause, script j key = .error pause

/-- **The calls of a run.** As long as they ask for pauses nothing changes; an answer ends it. -/
theorem after_run (script : Script κ Answer) (key : κ) (f : Answer key → α) (calls : Nat) :
    let i : Inquiry κ Answer α := .ask key fun answer => .done (f answer)
    (BacksOff script key calls ∧ i.after script calls = i ∧ i.backoffs script calls = calls) ∨
    ∃ k < calls, ∃ answer, BacksOff script key k ∧ script k key = .ok answer ∧
      i.after script (k + 1) = .done (f answer) ∧ i.after script calls = .done (f answer) ∧
      i.backoffs script calls = k := by
  intro i
  induction calls with
  | zero => exact Or.inl ⟨fun j hj => absurd hj (Nat.not_lt_zero j), rfl, rfl⟩
  | succ calls ih =>
      rcases ih with ⟨hback, hafter, hcount⟩ | ⟨k, hk, answer, hback, hanswer, hdone, hafter, hcount⟩
      · have hnext : i.after script (calls + 1) = i.proceed (script calls) :=
          congrArg (Inquiry.proceed (script calls)) hafter
        have hmore : i.backoffs script (calls + 1) =
            calls + (i.backoff? (script calls)).isSome.toNat := by
          rw [backoffs, hcount, hafter]
        cases hreply : script calls key with
        | error pause =>
            have hproceed : i.proceed (script calls) = i := by simp only [i, proceed, hreply]
            have hbackoff : i.backoff? (script calls) = some pause := by
              simp only [i, backoff?, hreply]
            refine Or.inl ⟨fun j hj => ?_, hnext.trans hproceed, ?_⟩
            · rcases Nat.lt_succ_iff_lt_or_eq.1 hj with hj | rfl
              · exact hback j hj
              · exact ⟨pause, hreply⟩
            · rw [hmore, hbackoff]
              rfl
        | ok answer =>
            have hproceed : i.proceed (script calls) = .done (f answer) := by
              simp only [i, proceed, hreply]
            have hbackoff : i.backoff? (script calls) = none := by simp only [i, backoff?, hreply]
            refine Or.inr ⟨calls, Nat.lt_succ_self calls, answer, hback, hreply,
              hnext.trans hproceed, hnext.trans hproceed, ?_⟩
            rw [hmore, hbackoff]
            rfl
      · refine Or.inr ⟨k, Nat.lt_succ_of_lt hk, answer, hback, hanswer, hdone, ?_, ?_⟩
        · rw [after, hafter, proceed]
        · rw [backoffs, hafter, hcount]
          rfl

end Inquiry

/-! ### The books about one worker -/

namespace Worker

/-- What the books say about a worker, with its starts and the requests for pauses among its calls.
-/
structure Booked (w : Worker κ Answer α) (starts backoffs : Nat) : Prop where
  left : w.left = w.task.after w.script w.ended
  /-- Every call that came to an end was for a question. -/
  asked : ∀ j < w.ended, (w.task.after w.script j).asks = true
  /-- Nobody who is done calls, or is dropped. -/
  unfinished : w.phase ≠ .resting → w.left.asks = true
  starts : starts = w.ended + w.hasOpenCall.toNat
  backoffs : backoffs = w.task.backoffs w.script w.ended

variable {w : Worker κ Answer α} {starts backoffs : Nat}

theorem booked_new (task : Inquiry κ Answer α) (script : Script κ Answer) :
    Booked { task := task, script := script } 0 0 :=
  ⟨rfl, fun j hj => absurd hj (Nat.not_lt_zero j), fun h => absurd rfl h, rfl, rfl⟩

theorem Booked.start (h : w.Booked starts backoffs) (hwaiting : w.isWaiting = true) :
    Booked { w with phase := .calling } (starts + 1) backoffs := by
  obtain ⟨hphase, hasks⟩ := Bool.and_eq_true_iff.1 hwaiting
  have hclosed : w.hasOpenCall = false := by
    rw [hasOpenCall, isCalling, isCutShort, eq_of_beq hphase]
    rfl
  refine ⟨h.left, h.asked, fun _ => hasks, ?_, h.backoffs⟩
  rw [h.starts, hclosed]
  rfl

theorem Booked.asks_of_isCalling (h : w.Booked starts backoffs) (hcalling : w.isCalling = true) :
    w.left.asks = true :=
  h.unfinished fun hphase => nomatch (eq_of_beq hcalling).symm.trans hphase

theorem Booked.goOn (h : w.Booked starts backoffs) (hcalling : w.isCalling = true) :
    w.goOn.Booked starts (backoffs + (w.left.backoff? w.reply).isSome.toNat) := by
  have hasks := h.asks_of_isCalling hcalling
  refine ⟨?_, fun j hj => ?_, fun hphase => absurd rfl hphase, ?_, ?_⟩
  · change w.left.proceed w.reply = (w.task.after w.script w.ended).proceed w.reply
    rw [← h.left]
  · rcases Nat.lt_succ_iff_lt_or_eq.1 hj with hj | rfl
    · exact h.asked j hj
    · change (w.task.after w.script w.ended).asks = true
      rw [← h.left]
      exact hasks
  · rw [h.starts, hasOpenCall, hcalling]
    rfl
  · change backoffs + _ = w.task.backoffs w.script w.ended +
      ((w.task.after w.script w.ended).backoff? w.reply).isSome.toNat
    rw [← h.left, h.backoffs]

theorem Booked.asks_of_isPending (h : w.Booked starts backoffs) (hpending : w.isPending = true) :
    w.left.asks = true := by
  rcases Bool.or_eq_true_iff.1 hpending with hwaiting | hcalling
  · exact (Bool.and_eq_true_iff.1 hwaiting).2
  · exact h.asks_of_isCalling hcalling

theorem isPending_of_isWaiting (h : w.isWaiting = true) : w.isPending = true :=
  Bool.or_eq_true_iff.2 (Or.inl h)

theorem isPending_of_isCalling (h : w.isCalling = true) : w.isPending = true :=
  Bool.or_eq_true_iff.2 (Or.inr h)

/-- A worker that is not done and not dropped was not dropped during a call. -/
theorem isCutShort_of_isPending (hpending : w.isPending = true) : w.isCutShort = false := by
  rw [isCutShort]
  rcases Bool.or_eq_true_iff.1 hpending with hwaiting | hcalling
  · rw [eq_of_beq (Bool.and_eq_true_iff.1 hwaiting).1]
    rfl
  · rw [eq_of_beq hcalling]
    rfl

theorem Booked.drop (h : w.Booked starts backoffs) (hpending : w.isPending = true) :
    Booked { w with phase := .dropped w.isCalling } starts backoffs := by
  refine ⟨h.left, h.asked, fun _ => h.asks_of_isPending hpending, h.starts.trans ?_, h.backoffs⟩
  rw [hasOpenCall, isCutShort_of_isPending hpending]
  cases w.isCalling <;> rfl

theorem isSome_value_of_resting (hphase : w.phase = .resting) :
    w.value?.isSome = !w.left.asks := by
  rw [value?, hphase]
  cases w.left <;> rfl

/-- A worker is done exactly when nothing is left. -/
theorem Booked.isSome_value (h : w.Booked starts backoffs) : w.value?.isSome = !w.left.asks := by
  by_cases hphase : w.phase = .resting
  · exact isSome_value_of_resting hphase
  · have hasks := h.unfinished hphase
    rw [value?, hasks]
    split
    · rename_i hresting _
      exact absurd hresting hphase
    · rfl

theorem isSome_value_of_isPending (hpending : w.isPending = true) : w.value?.isSome = false := by
  rcases Bool.or_eq_true_iff.1 hpending with hwaiting | hcalling
  · obtain ⟨hphase, hasks⟩ := Bool.and_eq_true_iff.1 hwaiting
    rw [isSome_value_of_resting (eq_of_beq hphase), hasks]
    rfl
  · rw [value?, eq_of_beq hcalling]
    rfl

/-- The end of a call makes a run done, unless the call asked for a pause. -/
theorem isSome_value_goOn (hleft : w.left = w.task) (hrun : w.task.IsRun) :
    w.goOn.value?.isSome = (w.left.backoff? w.reply).isNone := by
  obtain ⟨key, f, htask⟩ := hrun
  have hgoOn : w.goOn.value?.isSome = !(w.left.proceed w.reply).asks :=
    isSome_value_of_resting rfl
  rw [hgoOn, hleft, htask, Inquiry.proceed, Inquiry.backoff?]
  cases w.reply key <;> rfl

/-- **A run that is done** made one call after those that asked for pauses, and its value is what
this one call came to. -/
theorem Booked.run_done {key : κ} {f : Answer key → α} {a : α} (h : w.Booked starts backoffs)
    (htask : w.task = .ask key fun answer => .done (f answer)) (ha : w.value? = some a) :
    starts = backoffs + 1 ∧ Inquiry.BacksOff w.script key backoffs ∧
      ∃ answer, w.script backoffs key = .ok answer ∧ a = f answer := by
  have hleft : w.left = .done a ∧ w.hasOpenCall = false := by
    rw [value?] at ha
    split at ha
    · rename_i hphase hleft
      refine ⟨hleft.trans (congrArg _ (Option.some.inj ha)), ?_⟩
      rw [hasOpenCall, isCalling, isCutShort, hphase]
      rfl
    · cases ha
  have hafter := h.left
  have hbackoffs := h.backoffs
  have hstarts := h.starts
  rw [htask] at hafter hbackoffs
  rw [hleft.2] at hstarts
  rcases Inquiry.after_run w.script key f w.ended with
    ⟨-, hsame, -⟩ | ⟨k, hk, answer, hback, hanswer, hdone, hend, hcount⟩
  · rw [hsame, hleft.1] at hafter
    cases hafter
  · -- Nothing was called after the answer, for there was no question left.
    have hlast : w.ended = k + 1 := by
      by_contra hne
      have hasks := h.asked (k + 1) (by omega)
      rw [htask, hdone] at hasks
      cases hasks
    rw [hcount] at hbackoffs
    rw [hend, hleft.1] at hafter
    rw [hstarts, hbackoffs, hlast]
    exact ⟨rfl, hback, answer, hanswer, Inquiry.done.inj hafter⟩

/-- **A run that is not done** made only calls that asked for pauses, and perhaps one that is open.
-/
theorem Booked.run_open {key : κ} {f : Answer key → α} (h : w.Booked starts backoffs)
    (htask : w.task = .ask key fun answer => .done (f answer)) (ha : w.value? = none) :
    starts = backoffs + w.hasOpenCall.toNat ∧ Inquiry.BacksOff w.script key backoffs := by
  have hasks : w.left.asks = true := by
    have hvalue := h.isSome_value
    rw [ha] at hvalue
    exact Bool.not_eq_eq_eq_not.1 hvalue.symm
  have hafter := h.left
  have hbackoffs := h.backoffs
  rw [htask] at hafter hbackoffs
  rcases Inquiry.after_run w.script key f w.ended with
    ⟨hback, -, hcount⟩ | ⟨k, -, answer, -, -, -, hend, -⟩
  · rw [hcount] at hbackoffs
    rw [hbackoffs]
    exact ⟨h.starts, hback⟩
  · rw [hafter, hend] at hasks
    cases hasks

/-- A run is at its question until it is done. -/
theorem Booked.left_of_isRun (h : w.Booked starts backoffs) (hrun : w.task.IsRun)
    (hasks : w.left.asks = true) : w.left = w.task := by
  obtain ⟨key, f, htask⟩ := hrun
  have hafter := h.left
  rw [htask] at hafter ⊢
  rcases Inquiry.after_run w.script key f w.ended with
    ⟨-, hsame, -⟩ | ⟨k, -, answer, -, -, -, hend, -⟩
  · exact hafter.trans hsame
  · rw [hafter, hend] at hasks
    cases hasks

end Worker

/-! ### The books about a crew -/

namespace Crew

variable {limit n : Nat} {c c' : Crew κ Answer α} {w : Worker κ Answer α}

/-- The books about the workers; nothing is noted about those who did not join yet. -/
structure Recorded (c : Crew κ Answer α) : Prop where
  booked : ∀ n (w : Worker κ Answer α), c.workers[n]? = some w →
    w.Booked (c.startsOf n) (c.backoffsOf n)
  unjoined : ∀ n, c.workers.length ≤ n → c.startsOf n = 0 ∧ c.backoffsOf n = 0

theorem recorded_ofLimit (limit : Nat) : (ofLimit limit : Crew κ Answer α).Recorded :=
  ⟨fun _ _ hw => (nomatch hw), fun _ _ => ⟨rfl, rfl⟩⟩

/-- When worker `n` is put in another state, the books are right again if what they say about the
other ones stays and what they say about `n` is right. -/
theorem Recorded.set {w' : Worker κ Answer α} (h : c.Recorded) (hw : c.workers[n]? = some w)
    (hworkers : c'.workers = c.workers.set n w')
    (hother : ∀ m, n ≠ m → c'.startsOf m = c.startsOf m ∧ c'.backoffsOf m = c.backoffsOf m)
    (hself : w'.Booked (c'.startsOf n) (c'.backoffsOf n)) : c'.Recorded := by
  obtain ⟨hn, -⟩ := List.getElem?_eq_some_iff.1 hw
  refine ⟨fun m v hv => ?_, fun m hm => ?_⟩
  · rw [hworkers, getElem?_set_of_some hw] at hv
    by_cases hm : n = m
    · subst hm
      rw [if_pos rfl] at hv
      exact Option.some.inj hv ▸ hself
    · rw [if_neg hm] at hv
      rw [(hother m hm).1, (hother m hm).2]
      exact h.booked m v hv
  · rw [hworkers, List.length_set] at hm
    have hne : n ≠ m := Nat.ne_of_lt (Nat.lt_of_lt_of_le hn hm)
    rw [(hother m hne).1, (hother m hne).2]
    exact h.unjoined m hm

theorem startsOf_started (c : Crew κ Answer α) (n m : Nat) (w : Worker κ Answer α) :
    (c.started n w).startsOf m = c.startsOf m + (n == m).toNat :=
  countP_cons_toNat _ _ c.starts

theorem backoffsOf_ended (c : Crew κ Answer α) (n m : Nat) (w : Worker κ Answer α) :
    (c.ended n w).backoffsOf m =
      c.backoffsOf m + (n == m && (w.left.backoff? w.reply).isSome).toNat :=
  countP_cons_toNat _ _ c.ends

/-- Every move keeps the books right. -/
theorem Recorded.move (h : c.Recorded) (hmove : Move c c') : c'.Recorded := by
  cases hmove with
  | pass length => exact ⟨h.booked, h.unjoined⟩
  | pause pause => exact ⟨h.booked, h.unjoined⟩
  | resume => exact ⟨h.booked, h.unjoined⟩
  | expire deadline _ => exact ⟨h.booked, h.unjoined⟩
  | wait _ _ _ => exact ⟨h.booked, h.unjoined⟩
  | join task script =>
      refine ⟨fun m w hw => ?_, fun m hm => h.unjoined m ?_⟩
      · rcases getElem?_concat_eq_some.1 hw with hw | ⟨rfl, rfl⟩
        · exact h.booked m w hw
        · obtain ⟨hstarts, hbackoffs⟩ := h.unjoined c.workers.length (Nat.le_refl _)
          change Worker.Booked _ (c.startsOf _) (c.backoffsOf _)
          rw [hstarts, hbackoffs]
          exact Worker.booked_new task script
      · rw [List.length_append] at hm
        exact Nat.le_of_succ_le hm
  | @start n w hw hwaiting _ =>
      refine h.set hw rfl (fun m hm => ⟨?_, rfl⟩) ?_
      · rw [startsOf_started, beq_false_of_ne hm]
        rfl
      · rw [startsOf_started, beq_self_eq_true]
        exact (h.booked n w hw).start hwaiting
  | @finish n w hw hcalling =>
      refine h.set hw rfl (fun m hm => ⟨rfl, ?_⟩) ?_
      · rw [backoffsOf_ended, beq_false_of_ne hm]
        rfl
      · rw [backoffsOf_ended, beq_self_eq_true, Bool.true_and]
        exact (h.booked n w hw).goOn hcalling
  | @drop n w hw hpending =>
      exact h.set hw rfl (fun _ _ => ⟨rfl, rfl⟩) ((h.booked n w hw).drop hpending)

theorem recorded_after (limit : Nat) (events : List (CrewEvent κ Answer α)) :
    (after limit events).Recorded :=
  after_of_moves (recorded_ofLimit limit) Recorded.move events

end Crew

end PostFilter
