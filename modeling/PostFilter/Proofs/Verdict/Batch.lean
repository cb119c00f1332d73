import PostFilter.Proofs.Dispatch.Moves
import PostFilter.Proofs.Verdict.Walk
import PostFilter.Verdict.Batch

/-!
# Verdicts — batches do not depend on timing

Whenever a worker goes on, what is left of its inquiry still has the value that the whole inquiry
has: a request for a pause leaves it at its question, and an answer is that of the table. No other
worker changes what is left of it. So a worker that is done has the value of its inquiry, in
whatever order the workers were polled and however long their calls and the pauses took
(`Crew.leadTo_run`). The same holds of the tasks of a timeline (`Timeline.leadTo_runFrom`).
-/

namespace PostFilter

variable {κ : Type} {Answer : κ → Type} {α : Type} {answers : (key : κ) → Answer key}

/-! ### Values -/

theorem Inquiry.value_ask (key : κ) (next : Answer key → Inquiry κ Answer α) :
    (ask key next).value answers = (next (answers key)).value answers := rfl

/-- A reply changes nothing about the value of an inquiry. -/
theorem Inquiry.value_proceed {reply : (key : κ) → Except Pause (Answer key)}
    (h : ∀ key answer, reply key = .ok answer → answer = answers key) (i : Inquiry κ Answer α) :
    (i.proceed reply).value answers = i.value answers := by
  cases i with
  | done a => rfl
  | ask key next =>
      rw [proceed]
      split
      · rename_i answer hreply
        rw [value_ask, h key answer hreply]
      · rfl

/-- What is done together is the list of what each part came to. -/
theorem eq_of_mapM_eq_some {β γ : Type} {f : β → Option γ} {xs : List β} {ys zs : List γ}
    (h : List.Forall₂ (fun x y => ∀ z, f x = some z → z = y) xs ys) (hz : xs.mapM f = some zs) :
    zs = ys := by
  induction h generalizing zs with
  | nil => exact (Option.some.inj hz).symm
  | @cons x y xs ys hx _ ih =>
      rw [List.mapM_cons] at hz
      obtain ⟨z, hfx, hz⟩ := Option.bind_eq_some_iff.1 hz
      obtain ⟨rest, hrest, hz⟩ := Option.bind_eq_some_iff.1 hz
      rw [← Option.some.inj hz, hx z hfx, ih hrest]

/-! ### Crews -/

namespace Worker

/-- Whether a worker can only come to the given value, if its calls answer from a table. -/
structure LeadsTo (answers : (key : κ) → Answer key) (w : Worker κ Answer α) (a : α) : Prop where
  script : w.script.AnswersFrom answers
  left : w.left.value answers = a

theorem LeadsTo.eq_of_value {w : Worker κ Answer α} {a b : α} (h : w.LeadsTo answers a)
    (hb : w.value? = some b) : b = a := by
  have hleft := h.left
  rw [value?] at hb
  split at hb
  · rename_i hdone
    rw [hdone] at hleft
    exact (Option.some.inj hb).symm.trans hleft
  · cases hb

end Worker

namespace Crew

variable {c c' : Crew κ Answer α} {first : Nat} {values : List α}

/-- Whether the workers from number `first` on can only come to the given values. -/
def LeadTo (answers : (key : κ) → Answer key) (first : Nat) (values : List α)
    (c : Crew κ Answer α) : Prop :=
  ∀ i a, values[i]? = some a →
    ∃ w, c.workers[first + i]? = some w ∧ w.LeadsTo answers a

/-- Nobody's move changes what the workers come to. -/
theorem LeadTo.move (h : c.LeadTo answers first values) (hmove : Move c c') :
    c'.LeadTo answers first values := by
  intro i a ha
  obtain ⟨w, hw, hlead⟩ := h i a ha
  obtain ⟨w', hw', hscript, hleft⟩ := hmove.worker hw
  refine ⟨w', hw', hscript ▸ hlead.script, ?_⟩
  rcases hleft with hleft | hleft
  · exact hleft ▸ hlead.left
  · exact hleft ▸ (Inquiry.value_proceed (hlead.script w.ended) w.left).trans hlead.left

theorem leadTo_run (h : c.LeadTo answers first values) (events : List (CrewEvent κ Answer α)) :
    (c.run events).LeadTo answers first values :=
  of_moves LeadTo.move h (run_moves c events)

theorem LeadTo.eq_of_values {bs : List α} (h : c.LeadTo answers first values)
    (hb : c.values? first values.length = some bs) : bs = values := by
  refine eq_of_mapM_eq_some ?_ hb
  clear hb
  induction values generalizing first with
  | nil => exact .nil
  | cons a values ih =>
      refine .cons (fun b hb => ?_) (ih fun i b hb => ?_)
      · obtain ⟨w, hw, hlead⟩ := h 0 a rfl
        rw [valueOf?, show c.workers[first]? = _ from hw] at hb
        exact hlead.eq_of_value hb
      · rw [Nat.add_right_comm]
        exact h (i + 1) b hb

/-- Every worker of a batch leads to the value of its inquiry. -/
theorem leadTo_judgeAll (c : Crew Lookup Lookup.Answer Verdict) {services : Services}
    {scripts : Nat → Script Lookup Lookup.Answer} (r : Ruleset) (settings : Settings)
    (posts : List Post) (hscripts : ∀ i, (scripts i).AnswersFrom services) :
    (c.judgeAll r settings scripts posts).LeadTo services c.workers.length
      (posts.map fun post => (r.verdict settings post).value services) := by
  intro i a ha
  rw [List.getElem?_map] at ha
  obtain ⟨post, hpost, rfl⟩ := Option.map_eq_some_iff.1 ha
  refine ⟨{ task := r.verdict settings post, script := scripts i }, ?_, hscripts i, rfl⟩
  change (c.workers ++ posts.mapIdx _)[c.workers.length + i]? = _
  rw [List.getElem?_append_right (Nat.le_add_right _ _), Nat.add_sub_cancel_left,
    List.getElem?_mapIdx, hpost]
  rfl

theorem verdicts_eq {c : Crew Lookup Lookup.Answer Verdict} {services : Services} {r : Ruleset}
    {settings : Settings} {scripts : Nat → Script Lookup Lookup.Answer} {posts : List Post}
    {events : List (CrewEvent Lookup Lookup.Answer Verdict)} {vs : List Verdict}
    (hscripts : ∀ i, (scripts i).AnswersFrom services)
    (hvs : c.verdicts? r settings scripts posts events = some vs) :
    vs = posts.map fun post => (r.verdict settings post).value services := by
  refine (leadTo_run (leadTo_judgeAll c r settings posts hscripts) events).eq_of_values ?_
  rw [List.length_map]
  exact hvs

end Crew

/-! ### Timelines -/

/-- Whether a task can only come to the given value, or be given up. -/
def TaskState.LeadsTo (answers : (key : κ) → Answer key) (a : α) : TaskState κ Answer α → Prop
  | .idle i => i.value answers = a
  | .active i _ => i.value answers = a
  | .calling key next _ result _ =>
    (next (answers key)).value answers = a ∧ ∀ answer, result = .ok answer → answer = answers key
  | .over value _ => ∀ b, value = some b → b = a

namespace Timeline

variable {service : Service κ Answer} {t t' : Timeline} {run : Nat} {task : Task κ Answer α}
  {state : TaskState κ Answer α} {tasks : List (Task κ Answer α)} {values : List α} {a : α}

theorem leadsTo_giveUpAt {deadline : Option Nat}
    (h : t.giveUpAt run deadline = some (t', state)) : state.LeadsTo answers a := by
  rw [giveUpAt] at h
  split at h
  · cases h
    exact fun b hb => nomatch hb
  · cases h

/-- No move of a task changes what it comes to. -/
theorem leadsTo_move (hservice : service.AnswersFrom answers) (h : task.state.LeadsTo answers a)
    (hmove : t.move service run task = some (t', state)) : state.LeadsTo answers a := by
  rw [move] at hmove
  split at hmove
  · rename_i i hstate
    rw [hstate] at h
    split at hmove
    · cases hmove
      exact h
    · cases hmove
  · rename_i b deadline hstate
    rw [hstate] at h
    cases hmove
    exact fun b hb => Option.some.inj hb ▸ h
  · rename_i key next deadline hstate
    rw [hstate] at h
    dsimp only at hmove
    split at hmove
    · cases hmove
      exact ⟨h, hservice key _⟩
    · split at hmove
      · exact leadsTo_giveUpAt hmove
      · cases hmove
        exact h
  · rename_i key next due result deadline hstate
    rw [hstate] at h
    split at hmove
    · split at hmove
      · rename_i answer
        cases hmove
        change (next answer).value answers = a
        rw [h.2 answer rfl]
        exact h.1
      · cases hmove
        exact h.1
    · exact leadsTo_giveUpAt hmove
  · cases hmove

/-- Whether the tasks can only come to the given values, or be given up. -/
abbrev LeadTo (answers : (key : κ) → Answer key) (tasks : List (Task κ Answer α))
    (values : List α) : Prop :=
  List.Forall₂ (fun task a => task.state.LeadsTo answers a) tasks values

theorem LeadTo.set (h : LeadTo answers tasks values) (htask : tasks[run]? = some task)
    (hstate : ∀ a, task.state.LeadsTo answers a → state.LeadsTo answers a) :
    LeadTo answers (tasks.set run { task with state := state }) values := by
  induction h generalizing run with
  | nil => exact .nil
  | cons ha htail ih =>
      cases run with
      | zero =>
          obtain rfl := Option.some.inj htask
          exact .cons (hstate _ ha) htail
      | succ run => exact .cons ha (ih htask)

theorem LeadTo.giveUpAll (h : LeadTo answers tasks values) (t : Timeline) (run : Nat) :
    LeadTo answers (t.giveUpAll run tasks).2 values := by
  induction h generalizing t run with
  | nil => exact .nil
  | @cons task a tasks values ha _ ih =>
      have hone : (t.giveUp run task).2.state.LeadsTo answers a := by
        rw [giveUp]
        split
        · exact ha
        · exact fun b hb => nomatch hb
      exact .cons hone (ih _ _)

/-- No run of tasks changes what they come to. -/
theorem leadTo_runFrom (hservice : service.AnswersFrom answers) (horizon : Option Nat)
    (steps : Nat) (h : LeadTo answers tasks values) (t : Timeline) (run : Nat) (moved : Bool) :
    LeadTo answers (runFrom service horizon steps t tasks run moved).2 values := by
  induction steps generalizing t tasks run moved with
  | zero => exact h
  | succ steps ih =>
      rw [runFrom]
      split
      · rename_i task htask
        split
        · rename_i t' state hmove
          exact ih (h.set htask fun a ha => leadsTo_move hservice ha hmove) t' run true
        · exact ih h t (run + 1) moved
      · split
        · exact h
        · split
          · exact h.giveUpAll t 0
          · split
            · exact ih h t 0 false
            · split
              · exact h
              · exact ih h _ 0 false

theorem LeadTo.eq_of_values {bs : List α} (h : LeadTo answers tasks values)
    (hb : tasks.mapM valueOf? = some bs) : bs = values := by
  refine eq_of_mapM_eq_some (h.imp fun task a ha b hb => ?_) hb
  rw [valueOf?] at hb
  split at hb
  · rename_i value time hstate
    rw [hstate] at ha
    exact ha b hb
  · cases hb

/-- Inquiries that run side by side come to their values. -/
theorem runAll_eq {patience : Nat} {inquiries : List (Inquiry κ Answer α)} {bs : List α}
    (hservice : service.AnswersFrom answers)
    (hbs : (t.runAll service patience inquiries).2 = some bs) :
    bs = inquiries.map fun i => i.value answers := by
  refine (leadTo_runFrom hservice (some (t.now + patience)) manySteps ?_ _ 0 false).eq_of_values hbs
  exact List.forall₂_map_left_iff.2 (List.forall₂_map_right_iff.2
    (List.forall₂_same.2 fun _ _ => rfl))

end Timeline

/-! ### Batches -/

/-- **Verdicts do not depend on timing.** If a service's answers depend on the question only, then
whenever a batch is decided, whatever happened besides it and in whatever order, it has one verdict
for each post, in their order. Each verdict is the one to which the post comes alone, in whatever
crew that is and whatever happens there; and judged on a clock the posts come to the same
verdicts. -/
theorem Crew.verdicts_of_batch {c : Crew Lookup Lookup.Answer Verdict} {services : Services}
    {r : Ruleset} {settings : Settings} {scripts : Nat → Script Lookup Lookup.Answer}
    {posts : List Post} {events : List (CrewEvent Lookup Lookup.Answer Verdict)}
    {vs : List Verdict} (hscripts : ∀ i, (scripts i).AnswersFrom services)
    (hvs : c.verdicts? r settings scripts posts events = some vs) :
    vs = posts.map (fun post => (r.verdict settings post).value services) ∧
    (∀ (i : Nat) (post : Post) (v : Verdict), posts[i]? = some post → vs[i]? = some v →
      ∀ (c' : Crew Lookup Lookup.Answer Verdict) (scripts' : Nat → Script Lookup Lookup.Answer)
        (events' : List (CrewEvent Lookup Lookup.Answer Verdict)) (v' : Verdict),
        (∀ i, (scripts' i).AnswersFrom services) →
        c'.verdicts? r settings scripts' [post] events' = some [v'] → v' = v) ∧
    (∀ (service : LookupService) (patience : Nat) (t : Timeline) (vs' : List Verdict),
      service.AnswersFrom services →
      (t.judgeAll service patience r settings posts).2 = some vs' → vs' = vs) := by
  obtain rfl := verdicts_eq hscripts hvs
  refine ⟨rfl, fun i post v hpost hv c' scripts' events' v' hscripts' hv' => ?_,
    fun service patience t vs' hservice hvs' => ?_⟩
  · rw [List.getElem?_map, hpost] at hv
    exact (List.singleton_inj.1 (verdicts_eq hscripts' hv')).trans (Option.some.inj hv)
  · rw [Timeline.runAll_eq hservice hvs', List.map_map]
    rfl

/-- The ruleset `#vauthor(x)` and two posts with a video each, one permit, and a pause for which the
first call asks: the second post is decided before the first one. -/
theorem Crew.verdicts_of_put_off_batch :
    let author : Spell := { kind := .vauthor, argument := some (.text "x") }
    let r : Ruleset := ⟨0, some (.single (.spell author)), [], [], {}⟩
    let posts : List Post :=
      [{ number := 1, videos := [⟨"h", "v", none, none, none⟩] },
        { number := 2, videos := [⟨"h", "w", none, none, none⟩] }]
    let services : Services := fun
      | .signature _ => none
      | .details v => if v.id = "v" then some { title := "", author := "x" } else none
    let scripts : Nat → Script Lookup Lookup.Answer := fun i call key =>
      if i + call = 0 then .error (.lasting 5) else .ok (services key)
    let events : List (CrewEvent Lookup Lookup.Answer Verdict) :=
      [.poll 0 1, .poll 1 1, .pass 5, .poll 1 1, .poll 0 1]
    let c : Crew Lookup Lookup.Answer Verdict := Crew.ofLimit 1
    (∀ i, (scripts i).AnswersFrom services) ∧
    c.verdicts? r {} scripts posts events = some [⟨true, [author]⟩, ⟨false, [author]⟩] ∧
    ([⟨true, [author]⟩, ⟨false, [author]⟩] : List Verdict) =
      posts.map fun post => (r.verdict {} post).value services := by
  intro author r posts services scripts events c
  have hscripts (i : Nat) : (scripts i).AnswersFrom services := by
    intro call key answer h
    simp only [scripts] at h
    split at h
    · cases h
    · exact (Except.ok.inj h).symm
  have hvs : c.verdicts? r {} scripts posts events =
      some [⟨true, [author]⟩, ⟨false, [author]⟩] := by
    simp only [Crew.verdicts?, Crew.judgeAll, posts, List.mapIdx_cons, List.mapIdx_nil,
      Ruleset.verdict, Ruleset.judge, r, Group.walk_eq_decide]
    decide
  exact ⟨hscripts, hvs, (Crew.verdicts_of_batch hscripts hvs).1⟩
end PostFilter
