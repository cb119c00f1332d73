import PostFilter.Proofs.Dispatch.Moves

/-!
# Dispatch — pauses and their requests

A dispatch keeps one pause: the longest that was asked for. Pauses are asked for by hand and by
calls; they are ended by hand, and by any worker that waited for a deadline, which may not be the
deadline any more. Still, dispatch is paused exactly as long as one of the requests lasts that were
made since a pause was last ended by hand (`Crew.isPaused_after`).
-/

namespace PostFilter.Crew

variable {κ : Type} {Answer : κ → Type} {α : Type} {c c' : Crew κ Answer α}

theorem isPaused_ofPause (now : Nat) (pause : Pause) (time : Nat) :
    (PauseState.ofPause now pause).isPaused time = true ↔
      (PauseRequest.mk now pause).lastsAt time := by
  cases pause with
  | lasting length => exact decide_eq_true_iff
  | untilResumed => exact ⟨fun _ => trivial, fun _ => rfl⟩

/-- Whether dispatch is paused, now and later, just as long as one of the requests lasts. -/
def Answerable (c : Crew κ Answer α) : Prop :=
  ∀ time, c.now ≤ time →
    (c.dispatch.isPaused time = true ↔ ∃ r ∈ c.requests, r.lastsAt time)

theorem answerable_of_running (hpause : c.dispatch.pause = .running) (hrequests : c.requests = []) :
    c.Answerable := by
  intro time _
  rw [Dispatch.isPaused, hpause, hrequests]
  exact ⟨fun hpaused => (nomatch hpaused), fun ⟨_, hr, _⟩ => (nomatch hr)⟩

/-- One more request makes the pause last as long as it lasts itself. -/
theorem Answerable.request (h : c.Answerable) (pause : Pause) (hnow : c'.now = c.now)
    (hpause : c'.dispatch.pause = c.dispatch.pause.request c.now pause)
    (hhistory : c'.history = some ⟨c.now, pause⟩ :: c.history) : c'.Answerable := by
  intro time htime
  rw [hnow] at htime
  have hrequests : c'.requests = ⟨c.now, pause⟩ :: c.requests := by
    rw [requests, hhistory]
    rfl
  rw [Dispatch.isPaused, hpause, PauseState.isPaused_request, Bool.or_eq_true, hrequests,
    List.exists_mem_cons_iff, isPaused_ofPause, or_comm]
  exact or_congr_right (h time htime)

/-- Where no request is made and none is ended, the pause need only last as long as before. -/
theorem Answerable.congr (h : c.Answerable) (hnow : c.now ≤ c'.now)
    (hpause : ∀ time, c'.now ≤ time → c'.dispatch.isPaused time = c.dispatch.isPaused time)
    (hhistory : c'.history = c.history) : c'.Answerable := by
  intro time htime
  rw [hpause time htime, requests, hhistory]
  exact h time (Nat.le_trans hnow htime)

theorem Answerable.move (h : c.Answerable) (hmove : Move c c') : c'.Answerable := by
  cases hmove with
  | pass length => exact h.congr (Nat.le_add_right _ _) (fun _ _ => rfl) rfl
  | pause pause => exact h.request pause rfl rfl rfl
  | resume => exact answerable_of_running rfl rfl
  | expire deadline hdeadline =>
      -- The deadline has come: from now on a pause up to it does not last anyway.
      exact h.congr (Nat.le_refl _)
        (fun _ htime => c.dispatch.pause.isPaused_expire (Nat.le_trans hdeadline htime)) rfl
  | join task script => exact h.congr (Nat.le_refl _) (fun _ _ => rfl) rfl
  | wait _ _ _ =>
      exact h.congr (Nat.le_refl _) (fun _ htime => c.dispatch.isPaused_poll _ htime) rfl
  | start _ _ _ =>
      exact h.congr (Nat.le_refl _) (fun _ htime => c.dispatch.isPaused_poll _ htime) rfl
  | @finish n w _ _ =>
      have hpause : (c.ended n w).dispatch.pause =
          (w.left.backoff? w.reply).elim c.dispatch.pause (c.dispatch.pause.request c.now) := by
        change (Dispatch.finish _ _ _ _).pause = _
        rw [Dispatch.finish_eq]
      have hhistory : (c.ended n w).history =
          ((w.left.backoff? w.reply).map fun pause => some ⟨c.now, pause⟩).toList ++ c.history :=
        rfl
      cases hbackoff : w.left.backoff? w.reply with
      | none =>
          rw [hbackoff] at hpause hhistory
          exact h.congr (Nat.le_refl _)
            (fun time _ => congrArg (PauseState.isPaused · time) hpause) hhistory
      | some pause =>
          rw [hbackoff] at hpause hhistory
          exact h.request pause rfl hpause hhistory
  | drop _ _ =>
      exact h.congr (Nat.le_refl _)
        (fun time _ => congrArg (PauseState.isPaused · time) (Dispatch.pause_abandon _ _)) rfl

theorem answerable_after (limit : Nat) (events : List (CrewEvent κ Answer α)) :
    (after limit events).Answerable :=
  after_of_moves (answerable_of_running rfl rfl) Answerable.move events

/-- **A pause is never cut short and never outlives its request.** Whatever happened, dispatch is
paused exactly if a request lasts that was made since a pause was last ended by hand. And a worker
that ends the pause for whose deadline it waited ends no pause that lasts. -/
theorem isPaused_after (limit : Nat) (events : List (CrewEvent κ Answer α)) :
    ((after limit events).dispatch.isPaused (after limit events).now = true ↔
      ∃ r ∈ (after limit events).requests, r.lastsAt (after limit events).now) ∧
    ∀ deadline time, (after limit events).now ≤ time →
      ((after limit events).apply (.expire deadline)).dispatch.isPaused time =
        (after limit events).dispatch.isPaused time := by
  refine ⟨answerable_after limit events _ (Nat.le_refl _), fun deadline time htime => ?_⟩
  rw [apply]
  split
  · rename_i hdeadline
    exact PauseState.isPaused_expire _ (Nat.le_trans hdeadline htime)
  · rfl

end PostFilter.Crew
