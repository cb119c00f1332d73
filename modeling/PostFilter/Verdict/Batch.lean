import PostFilter.Dispatch.Crew
import PostFilter.Verdict.Session

/-!
# Verdicts — batches

A batch of posts is judged side by side: each post by a worker of its own, in a crew that may have
other workers and other batches. A batch is done when all its workers are; its verdicts come in the
order of the posts.

A service may put off every question as often as it likes, in each call for other reasons. What
makes it one service is that its answers depend on the question only (`Script.AnswersFrom`).
-/

namespace PostFilter

variable {κ : Type} {Answer : κ → Type} {α : Type}

/-- Whether the calls that come to an answer come to that of a table. -/
def Script.AnswersFrom (script : Script κ Answer) (answers : (key : κ) → Answer key) : Prop :=
  ∀ call key answer, script call key = .ok answer → answer = answers key

namespace Crew

/-- What a worker came to, if it is done. -/
def valueOf? (c : Crew κ Answer α) (n : Nat) : Option α := c.workers[n]?.bind Worker.value?

/-- What `count` workers from a number on came to, if all of them are done. -/
def values? (c : Crew κ Answer α) (first count : Nat) : Option (List α) :=
  (List.range' first count).mapM c.valueOf?

/-- The crew when a batch of posts has joined it; the calls for post `i` go by `scripts i`. -/
def judgeAll (c : Crew Lookup Lookup.Answer Verdict) (r : Ruleset) (settings : Settings)
    (scripts : Nat → Script Lookup Lookup.Answer) (posts : List Post) :
    Crew Lookup Lookup.Answer Verdict :=
  { c with
    workers := c.workers ++ posts.mapIdx fun i post =>
      { task := r.verdict settings post, script := scripts i } }

/-- The verdicts of a batch after further events, if all posts are decided by then. -/
def verdicts? (c : Crew Lookup Lookup.Answer Verdict) (r : Ruleset) (settings : Settings)
    (scripts : Nat → Script Lookup Lookup.Answer) (posts : List Post)
    (events : List (CrewEvent Lookup Lookup.Answer Verdict)) : Option (List Verdict) :=
  ((c.judgeAll r settings scripts posts).run events).values? c.workers.length posts.length

end Crew

/-- Whether the replies of a service that are answers are those of a table. -/
def Service.AnswersFrom (service : Service κ Answer) (answers : (key : κ) → Answer key) : Prop :=
  ∀ key earlier answer, (service.reply key earlier).result = .ok answer → answer = answers key

end PostFilter
