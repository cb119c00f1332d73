import PostFilter.Dispatch.Pause

/-!
# Dispatch — how long a pause lasts

At each time a pause lasts that was merged from others exactly if one of them does. Ending a pause
whose deadline has come, or settling it, changes nothing about any time from then on.
-/

namespace PostFilter.PauseState

variable {now time : Nat}

theorem isPaused_merge (s r : PauseState) (time : Nat) :
    (s.merge r).isPaused time = (s.isPaused time || r.isPaused time) := by
  cases s with
  | running => cases r <;> rfl
  | pausedUntilResumed => rfl
  | pausedUntil a =>
      cases r with
      | running => exact (Bool.or_false _).symm
      | pausedUntilResumed => exact (Bool.or_true _).symm
      | pausedUntil b =>
          change decide (time < max a b) = (decide (time < a) || decide (time < b))
          rw [← Bool.decide_or]
          exact decide_eq_decide.2 (by omega)

theorem isPaused_request (s : PauseState) (now : Nat) (pause : Pause) (time : Nat) :
    (s.request now pause).isPaused time = (s.isPaused time || (ofPause now pause).isPaused time) :=
  isPaused_merge s (ofPause now pause) time

/-- From its deadline on nothing depends on whether a pause was ended. -/
theorem isPaused_expire (s : PauseState) {deadline : Nat} (h : deadline ≤ time) :
    (s.expire deadline).isPaused time = s.isPaused time := by
  rw [expire]
  split
  · rename_i hs
    rw [hs]
    exact (decide_eq_false (Nat.not_lt.2 h)).symm
  · rfl

theorem isPaused_settle (s : PauseState) (h : now ≤ time) :
    (s.settle now).isPaused time = s.isPaused time := by
  cases s with
  | pausedUntil deadline =>
      rw [settle]
      split
      · rfl
      · rename_i hover
        exact isPaused_expire _ (Nat.le_trans (Nat.le_of_not_lt hover) h)
  | running => rfl
  | pausedUntilResumed => rfl

end PostFilter.PauseState
