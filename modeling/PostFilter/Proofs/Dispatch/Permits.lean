import Mathlib.Data.List.Nodup
import Mathlib.Data.List.Perm.Basic
import PostFilter.Dispatch.Basic
import PostFilter.Proofs.Dispatch.Pauses

/-!
# Dispatch — permits

No permit is lost and none is made: those that are free and those that runs hold are always all of
them (`Dispatch.Balanced`). Giving a permit back and starting a call each take care of one permit
that is counted nowhere else, so these two carry the argument, and the balance of every other
operation follows from theirs.

Beside the count, each operation is described by whom it moves: only the run that it is about, and
no further than from the queue to a permit (`Dispatch.mem_waiting_release`).
-/

namespace PostFilter.Dispatch

/-- The runs that hold a permit. -/
def holders (d : Dispatch) : List Nat := d.granted ++ d.calling

/-- The runs that want a permit, or were handed one and have not gone on since. -/
def waiting (d : Dispatch) : List Nat := d.queue ++ d.granted

/-- Whether all permits are accounted for, when `inHand` of them are counted nowhere; whether every
run has one place only; and whether no permit is free while a run wants one. -/
structure Balanced (inHand : Nat) (d : Dispatch) : Prop where
  permits : d.free + d.granted.length + d.calling.length + inHand = d.limit
  nodup : (d.waiting ++ d.calling).Nodup
  idle : d.free = 0 ∨ d.queue = []

variable {d : Dispatch} {now run n : Nat}

theorem balanced_ofLimit (limit : Nat) : (ofLimit limit).Balanced 0 :=
  ⟨rfl, List.nodup_nil, Or.inr rfl⟩

theorem Balanced.length_holders (h : d.Balanced 0) : d.free + d.holders.length = d.limit := by
  have hpermits := h.permits
  rw [holders, List.length_append]
  omega

theorem Balanced.nodup_holders (h : d.Balanced 0) : d.holders.Nodup := by
  have hnodup := h.nodup
  rw [waiting, List.append_assoc] at hnodup
  exact hnodup.of_append_right

theorem Balanced.nodup_calling (h : d.Balanced 0) : d.calling.Nodup := h.nodup.of_append_right

/-- A run whose call is under way waits for nothing. -/
theorem Balanced.not_mem_waiting (h : d.Balanced 0) (hn : n ∈ d.calling) : n ∉ d.waiting :=
  fun hw => (List.nodup_append'.1 h.nodup).2.2 hw hn

/-! ### Giving a permit back -/

theorem limit_release (d : Dispatch) : d.release.limit = d.limit := by
  rw [release]; split <;> rfl

theorem calling_release (d : Dispatch) : d.release.calling = d.calling := by
  rw [release]; split <;> rfl

theorem pause_release (d : Dispatch) : d.release.pause = d.pause := by
  rw [release]; split <;> rfl

theorem dispatched_release (d : Dispatch) : d.release.dispatched = d.dispatched := by
  rw [release]; split <;> rfl

theorem backoffs_release (d : Dispatch) : d.release.backoffs = d.backoffs := by
  rw [release]; split <;> rfl

/-- The run that has waited longest may be handed the permit; for nobody else anything changes. -/
theorem waiting_release (d : Dispatch) : d.release.waiting.Perm d.waiting := by
  rw [release]
  split
  · exact .refl _
  · rename_i first rest hqueue
    rw [waiting, waiting, hqueue, ← List.append_assoc]
    exact List.perm_append_singleton first (rest ++ d.granted)

theorem mem_waiting_release : n ∈ d.release.waiting ↔ n ∈ d.waiting :=
  (waiting_release d).mem_iff

/-- **A permit that is given back is counted again.** -/
theorem Balanced.release (h : d.Balanced 1) : d.release.Balanced 0 := by
  refine ⟨?_, ?_, ?_⟩
  · have hpermits := h.permits
    rw [Dispatch.release]
    split
    · change d.free + 1 + d.granted.length + d.calling.length + 0 = d.limit
      omega
    · change d.free + (d.granted ++ [_]).length + d.calling.length + 0 = d.limit
      rw [List.length_append, List.length_singleton]
      omega
  · rw [calling_release]
    exact ((waiting_release d).append_right d.calling).nodup_iff.2 h.nodup
  · rw [Dispatch.release]
    split
    · rename_i hqueue
      exact Or.inr hqueue
    · rename_i first rest hqueue
      -- Somebody queued, so no permit was free before.
      refine Or.inl (h.idle.resolve_right ?_)
      rw [hqueue]
      exact List.cons_ne_nil _ _

/-! ### Starting a call -/

/-- **A permit with which a call is started is counted again.** -/
theorem Balanced.start (h : d.Balanced 1) (hw : run ∉ d.waiting) (hc : run ∉ d.calling) :
    (d.start run).Balanced 0 := by
  refine ⟨?_, ?_, h.idle⟩
  · have hpermits := h.permits
    change d.free + d.granted.length + (d.calling ++ [run]).length + 0 = d.limit
    rw [List.length_append, List.length_singleton]
    omega
  · change (d.waiting ++ (d.calling ++ [run])).Nodup
    rw [← List.append_assoc]
    refine h.nodup.append (List.nodup_singleton run) ?_
    intro m hm hrun
    rcases List.mem_append.1 hm with hm | hm
    · exact hw (List.mem_singleton.1 hrun ▸ hm)
    · exact hc (List.mem_singleton.1 hrun ▸ hm)

theorem mem_calling_start : n ∈ (d.start run).calling ↔ n ∈ d.calling ∨ n = run := by
  change n ∈ d.calling ++ [run] ↔ _
  rw [List.mem_append, List.mem_singleton]

/-! ### Taking a run out of its place -/

/-- The dispatch without a run that was granted a permit; the permit is in hand. -/
def ungrant (d : Dispatch) (run : Nat) : Dispatch := { d with granted := d.granted.erase run }

/-- The dispatch without a run whose call was under way; its permit is in hand. -/
def hangUp (d : Dispatch) (run : Nat) : Dispatch := { d with calling := d.calling.erase run }

theorem Balanced.ungrant (h : d.Balanced 0) (hrun : run ∈ d.granted) :
    (d.ungrant run).Balanced 1 := by
  refine ⟨?_, ?_, h.idle⟩
  · have hpermits := h.permits
    have hpos : 0 < d.granted.length := List.length_pos_of_mem hrun
    change d.free + (d.granted.erase run).length + d.calling.length + 1 = d.limit
    rw [List.length_erase_of_mem hrun]
    omega
  · have hsub : (d.ungrant run).waiting.Sublist d.waiting :=
      (List.Sublist.refl d.queue).append List.erase_sublist
    exact (hsub.append (List.Sublist.refl d.calling)).nodup h.nodup

theorem Balanced.hangUp (h : d.Balanced 0) (hrun : run ∈ d.calling) :
    (d.hangUp run).Balanced 1 := by
  refine ⟨?_, ?_, h.idle⟩
  · have hpermits := h.permits
    have hpos : 0 < d.calling.length := List.length_pos_of_mem hrun
    change d.free + d.granted.length + (d.calling.erase run).length + 1 = d.limit
    rw [List.length_erase_of_mem hrun]
    omega
  · exact ((List.Sublist.refl d.waiting).append List.erase_sublist).nodup h.nodup

/-- A run that was granted a permit is taken out of the waiting ones with it. -/
theorem Balanced.mem_waiting_ungrant (h : d.Balanced 0) (hrun : run ∈ d.granted) :
    n ∈ (d.ungrant run).waiting ↔ n ∈ d.waiting ∧ n ≠ run := by
  have hnodup := List.nodup_append'.1 h.nodup.of_append_left
  have hqueue : n ∈ d.queue → n ≠ run := by
    rintro hn rfl
    exact hnodup.2.2 hn hrun
  change n ∈ d.queue ++ d.granted.erase run ↔ n ∈ d.queue ++ d.granted ∧ n ≠ run
  rw [List.mem_append, List.mem_append, hnodup.2.1.mem_erase_iff]
  constructor
  · rintro (hn | ⟨hne, hn⟩)
    · exact ⟨Or.inl hn, hqueue hn⟩
    · exact ⟨Or.inr hn, hne⟩
  · rintro ⟨hn | hn, hne⟩
    · exact Or.inl hn
    · exact Or.inr ⟨hne, hn⟩

/-! ### Polling a run -/

/-- **What polling a run can do.** The run goes on waiting, for a permit or for the end of a pause;
it gives the permit back that it was granted during a pause; or it starts its call, with the permit
that it was granted or with a free one. -/
theorem poll_cases (d : Dispatch) (now run : Nat) :
    d.poll now run = d ∨
    (run ∈ d.granted ∧ d.isPaused now = true ∧ d.poll now run = (d.ungrant run).release) ∨
    (run ∈ d.granted ∧ d.isPaused now = false ∧ d.poll now run = (d.ungrant run).start run) ∨
    (run ∉ d.waiting ∧ d.isPaused now = false ∧ d.free = 0 ∧
      d.poll now run = { d with pause := d.pause.settle now, queue := d.queue ++ [run] }) ∨
    (run ∉ d.waiting ∧ d.isPaused now = false ∧ d.free ≠ 0 ∧
      d.poll now run =
        Dispatch.start { d with pause := d.pause.settle now, free := d.free - 1 } run) := by
  by_cases hgranted : run ∈ d.granted
  · have hpoll : d.poll now run = if (d.ungrant run).isPaused now then (d.ungrant run).release
        else (d.ungrant run).start run := by
      rw [poll, if_pos (List.contains_iff_mem.2 hgranted)]
      rfl
    cases hpause : d.isPaused now with
    | true =>
        exact Or.inr (Or.inl ⟨hgranted, rfl, hpoll.trans (if_pos hpause)⟩)
    | false =>
        exact Or.inr (Or.inr (Or.inl ⟨hgranted, rfl,
          hpoll.trans (if_neg (ne_true_of_eq_false hpause))⟩))
  · have hpoll : d.poll now run = if d.queue.contains run || d.isPaused now then d
        else if d.free = 0 then { d with pause := d.pause.settle now, queue := d.queue ++ [run] }
        else Dispatch.start { d with pause := d.pause.settle now, free := d.free - 1 } run := by
      rw [poll, if_neg (mt List.contains_iff_mem.1 hgranted)]
    by_cases hstay : (d.queue.contains run || d.isPaused now) = true
    · exact Or.inl (hpoll.trans (if_pos hstay))
    · rw [if_neg hstay] at hpoll
      rw [Bool.or_eq_true, not_or, List.contains_iff_mem, Bool.not_eq_true] at hstay
      have hw : run ∉ d.waiting := fun h =>
        (List.mem_append.1 h).elim hstay.1 hgranted
      by_cases hfree : d.free = 0
      · exact Or.inr (Or.inr (Or.inr (Or.inl ⟨hw, hstay.2, hfree, hpoll.trans (if_pos hfree)⟩)))
      · exact Or.inr (Or.inr (Or.inr (Or.inr ⟨hw, hstay.2, hfree, hpoll.trans (if_neg hfree)⟩)))

/-- The dispatch before a call is started with a free permit. -/
theorem Balanced.takeFree (h : d.Balanced 0) (hfree : d.free ≠ 0) (pause : PauseState) :
    Balanced 1 { d with pause := pause, free := d.free - 1 } := by
  refine ⟨?_, h.nodup, Or.inr (h.idle.resolve_left hfree)⟩
  have hpermits := h.permits
  change d.free - 1 + d.granted.length + d.calling.length + 1 = d.limit
  omega

/-- A run that is polled loses no permit and makes none. -/
theorem Balanced.poll (h : d.Balanced 0) (hrun : run ∉ d.calling) (now : Nat) :
    (d.poll now run).Balanced 0 := by
  rcases d.poll_cases now run with heq | ⟨hg, -, heq⟩ | ⟨hg, -, heq⟩ | ⟨hw, -, hfree, heq⟩ |
    ⟨hw, -, hfree, heq⟩
  · rw [heq]
    exact h
  · rw [heq]
    exact (h.ungrant hg).release
  · rw [heq]
    exact (h.ungrant hg).start (fun hmem => ((h.mem_waiting_ungrant hg).1 hmem).2 rfl) hrun
  · rw [heq]
    refine ⟨h.permits, ?_, Or.inl hfree⟩
    -- The run is put between the queue and the granted ones; it was in neither, nor calling.
    have hperm : (d.queue ++ [run] ++ d.granted ++ d.calling).Perm
        (run :: (d.waiting ++ d.calling)) := by
      rw [waiting, List.append_assoc, List.append_assoc, List.append_assoc]
      exact List.perm_middle
    refine hperm.nodup_iff.2 (List.nodup_cons.2 ⟨?_, h.nodup⟩)
    exact fun hmem => (List.mem_append.1 hmem).elim hw hrun
  · rw [heq]
    exact (h.takeFree hfree _).start hw hrun

theorem limit_poll (d : Dispatch) (now run : Nat) : (d.poll now run).limit = d.limit := by
  rcases d.poll_cases now run with heq | ⟨-, -, heq⟩ | ⟨-, -, heq⟩ | ⟨-, -, -, heq⟩ |
    ⟨-, -, -, heq⟩ <;> rw [heq]
  · exact limit_release _
  · rfl
  · rfl

/-- Whether a poll started the call of a run, and what else it did to it. -/
structure PollOutcome (d d' : Dispatch) (now run : Nat) : Prop where
  /-- Only calls of the run are started. -/
  calling : ∀ n, n ∈ d'.calling ↔ n ∈ d.calling ∨ (n = run ∧ run ∈ d'.calling)
  /-- Only the run may come to wait. -/
  waiting : ∀ n ∈ d'.waiting, n ∈ d.waiting ∨ n = run
  /-- A call is started only while there is no pause, and counted. -/
  started : run ∈ d'.calling → d'.isPaused now = false ∧ d'.dispatched = d.dispatched + 1 ∧
    d'.calling.length = d.calling.length + 1
  unstarted : run ∉ d'.calling → d'.dispatched = d.dispatched ∧
    d'.calling.length = d.calling.length
  backoffs : d'.backoffs = d.backoffs

theorem pollOutcome (h : d.Balanced 0) (hrun : run ∉ d.calling) (now : Nat) :
    PollOutcome d (d.poll now run) now run := by
  -- Where no call is started, the calls under way stay the same.
  have still {d' : Dispatch} (hcalling : d'.calling = d.calling)
      (hdispatched : d'.dispatched = d.dispatched) (hbackoffs : d'.backoffs = d.backoffs)
      (hwaiting : ∀ n ∈ d'.waiting, n ∈ d.waiting ∨ n = run) : PollOutcome d d' now run := by
    refine ⟨fun n => ?_, hwaiting, fun hmem => ?_, fun _ => ⟨hdispatched, by rw [hcalling]⟩,
      hbackoffs⟩
    · rw [hcalling]
      exact ⟨Or.inl, fun hn => hn.elim id fun hn => absurd hn.2 hrun⟩
    · rw [hcalling] at hmem
      exact absurd hmem hrun
  -- Where one is started, it is that of the run.
  have starting {d' : Dispatch} (hcalling : d'.calling = d.calling)
      (hdispatched : d'.dispatched = d.dispatched) (hbackoffs : d'.backoffs = d.backoffs)
      (hpause : d'.isPaused now = false)
      (hwaiting : ∀ n ∈ d'.waiting, n ∈ d.waiting ∨ n = run) :
      PollOutcome d (d'.start run) now run := by
    have hstarted : run ∈ (d'.start run).calling := mem_calling_start.2 (Or.inr rfl)
    refine ⟨fun n => ?_, hwaiting, fun _ => ⟨hpause, ?_, ?_⟩, fun hno => absurd hstarted hno,
      hbackoffs⟩
    · rw [mem_calling_start, hcalling]
      exact or_congr_right ⟨fun hn => ⟨hn, hstarted⟩, fun hn => hn.1⟩
    · exact congrArg (· + 1) hdispatched
    · change (d'.calling ++ [run]).length = _
      rw [List.length_append, hcalling, List.length_singleton]
  rcases d.poll_cases now run with heq | ⟨hg, -, heq⟩ | ⟨hg, hpause, heq⟩ | ⟨-, -, -, heq⟩ |
    ⟨-, hpause, -, heq⟩ <;> rw [heq]
  · exact still rfl rfl rfl fun n hn => Or.inl hn
  · refine still (calling_release _) (dispatched_release _) (backoffs_release _) fun n hn => ?_
    exact Or.inl ((h.mem_waiting_ungrant hg).1 (mem_waiting_release.1 hn)).1
  · exact starting rfl rfl rfl hpause fun n hn => Or.inl ((h.mem_waiting_ungrant hg).1 hn).1
  · refine still rfl rfl rfl fun n hn => ?_
    rcases List.mem_append.1 hn with hn | hn
    · exact (List.mem_append.1 hn).imp (List.mem_append_left _) List.mem_singleton.1
    · exact Or.inl (List.mem_append_right _ hn)
  · have hsettled := (d.pause.isPaused_settle (Nat.le_refl now)).trans hpause
    exact starting rfl rfl rfl hsettled fun n hn => Or.inl hn

/-- A poll changes nothing about how long the pause lasts. -/
theorem isPaused_poll (d : Dispatch) {time : Nat} (run : Nat) (h : now ≤ time) :
    (d.poll now run).isPaused time = d.isPaused time := by
  rcases d.poll_cases now run with heq | ⟨-, -, heq⟩ | ⟨-, -, heq⟩ | ⟨-, -, -, heq⟩ |
    ⟨-, -, -, heq⟩ <;> rw [heq]
  · exact congrArg (PauseState.isPaused · time) (pause_release _)
  · rfl
  · exact d.pause.isPaused_settle h
  · exact d.pause.isPaused_settle h

/-! ### Ending a call and giving a run up -/

/-- The end of a call gives its permit back; then a pause begins if the call asked for one. -/
theorem finish_eq (d : Dispatch) (now run : Nat) (backoff : Option Pause) :
    d.finish now run backoff =
      { (d.hangUp run).release with
        backoffs := d.backoffs + backoff.toList.length
        pause := backoff.elim d.pause (d.pause.request now) } := by
  have hpause : (d.hangUp run).release.pause = d.pause := pause_release _
  have hbackoffs : (d.hangUp run).release.backoffs = d.backoffs := backoffs_release _
  rw [← hpause, ← hbackoffs]
  cases backoff <;> rfl

theorem Balanced.finish (h : d.Balanced 0) (hrun : run ∈ d.calling) (now : Nat)
    (backoff : Option Pause) : (d.finish now run backoff).Balanced 0 := by
  have hreleased := (h.hangUp hrun).release
  rw [finish_eq]
  exact ⟨hreleased.permits, hreleased.nodup, hreleased.idle⟩

theorem calling_finish (d : Dispatch) (now run : Nat) (backoff : Option Pause) :
    (d.finish now run backoff).calling = d.calling.erase run := by
  rw [finish_eq]
  exact calling_release _

theorem mem_waiting_finish {backoff : Option Pause} :
    n ∈ (d.finish now run backoff).waiting ↔ n ∈ d.waiting := by
  rw [finish_eq]
  exact mem_waiting_release

theorem limit_finish (d : Dispatch) (now run : Nat) (backoff : Option Pause) :
    (d.finish now run backoff).limit = d.limit := by
  rw [finish_eq]
  exact limit_release _

theorem dispatched_finish (d : Dispatch) (now run : Nat) (backoff : Option Pause) :
    (d.finish now run backoff).dispatched = d.dispatched := by
  rw [finish_eq]
  exact dispatched_release _

/-- **What giving a run up can do**: it takes the run from the place where it is, and gives back the
permit that it holds there. -/
theorem abandon_cases (d : Dispatch) (run : Nat) :
    (run ∈ d.calling ∧ d.abandon run = (d.hangUp run).release) ∨
    (run ∉ d.calling ∧ run ∈ d.granted ∧ d.abandon run = (d.ungrant run).release) ∨
    (run ∉ d.calling ∧ run ∉ d.granted ∧
      d.abandon run = { d with queue := d.queue.erase run }) := by
  by_cases hcalling : run ∈ d.calling
  · refine Or.inl ⟨hcalling, ?_⟩
    rw [abandon, if_pos (List.contains_iff_mem.2 hcalling)]
    rfl
  · by_cases hgranted : run ∈ d.granted
    · refine Or.inr (Or.inl ⟨hcalling, hgranted, ?_⟩)
      rw [abandon, if_neg (mt List.contains_iff_mem.1 hcalling),
        if_pos (List.contains_iff_mem.2 hgranted)]
      rfl
    · refine Or.inr (Or.inr ⟨hcalling, hgranted, ?_⟩)
      rw [abandon, if_neg (mt List.contains_iff_mem.1 hcalling),
        if_neg (mt List.contains_iff_mem.1 hgranted)]

theorem Balanced.abandon (h : d.Balanced 0) (run : Nat) : (d.abandon run).Balanced 0 := by
  rcases d.abandon_cases run with ⟨hc, heq⟩ | ⟨-, hg, heq⟩ | ⟨-, -, heq⟩
  · rw [heq]
    exact (h.hangUp hc).release
  · rw [heq]
    exact (h.ungrant hg).release
  · rw [heq]
    refine ⟨h.permits, ?_, h.idle.imp_right fun hqueue => ?_⟩
    · have hsub : (d.queue.erase run ++ d.granted).Sublist d.waiting :=
        List.erase_sublist.append (List.Sublist.refl d.granted)
      exact (hsub.append (List.Sublist.refl d.calling)).nodup h.nodup
    · change d.queue.erase run = []
      rw [hqueue]
      rfl

theorem calling_abandon (d : Dispatch) (run : Nat) :
    (d.abandon run).calling = d.calling.erase run := by
  rcases d.abandon_cases run with ⟨-, heq⟩ | ⟨hc, -, heq⟩ | ⟨hc, -, heq⟩ <;> rw [heq]
  · exact calling_release _
  · rw [List.erase_of_not_mem hc]
    exact calling_release _
  · exact (List.erase_of_not_mem hc).symm

theorem mem_waiting_abandon (h : d.Balanced 0) :
    n ∈ (d.abandon run).waiting ↔ n ∈ d.waiting ∧ n ≠ run := by
  rcases d.abandon_cases run with ⟨hc, heq⟩ | ⟨-, hg, heq⟩ | ⟨-, hg, heq⟩ <;> rw [heq]
  · rw [mem_waiting_release]
    refine ⟨fun hn => ⟨hn, ?_⟩, fun hn => hn.1⟩
    rintro rfl
    exact h.not_mem_waiting hc hn
  · rw [mem_waiting_release, h.mem_waiting_ungrant hg]
  · have hnodup := (List.nodup_append'.1 h.nodup.of_append_left).1
    change n ∈ d.queue.erase run ++ d.granted ↔ n ∈ d.queue ++ d.granted ∧ n ≠ run
    rw [List.mem_append, List.mem_append, hnodup.mem_erase_iff]
    have hne : n ∈ d.granted → n ≠ run := by
      rintro hn rfl
      exact hg hn
    tauto

theorem limit_abandon (d : Dispatch) (run : Nat) : (d.abandon run).limit = d.limit := by
  rcases d.abandon_cases run with ⟨-, heq⟩ | ⟨-, -, heq⟩ | ⟨-, -, heq⟩ <;> rw [heq]
  · exact limit_release _
  · exact limit_release _

theorem pause_abandon (d : Dispatch) (run : Nat) : (d.abandon run).pause = d.pause := by
  rcases d.abandon_cases run with ⟨-, heq⟩ | ⟨-, -, heq⟩ | ⟨-, -, heq⟩ <;> rw [heq]
  · exact pause_release _
  · exact pause_release _

theorem counts_abandon (d : Dispatch) (run : Nat) :
    (d.abandon run).dispatched = d.dispatched ∧ (d.abandon run).backoffs = d.backoffs := by
  rcases d.abandon_cases run with ⟨-, heq⟩ | ⟨-, -, heq⟩ | ⟨-, -, heq⟩ <;> rw [heq]
  · exact ⟨dispatched_release _, backoffs_release _⟩
  · exact ⟨dispatched_release _, backoffs_release _⟩
  · exact ⟨rfl, rfl⟩

end PostFilter.Dispatch
