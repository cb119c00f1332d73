import PostFilter.Dispatch.Basic
import PostFilter.Inquiry.Basic

/-!
# Dispatch — crews

A crew is a number of workers that share one dispatch. Each of them makes an inquiry, and each
question of it is a run of the dispatch under the worker's number. What happens to a crew is a list
of events: time passes, a pause is asked for or ended by hand, a worker joins, is polled or is
dropped. The events may come in any order. So what holds after every list of events holds in
whatever order the workers are polled, however long their calls take, and wherever they are given
up. `PostFilter.Dispatch.Timeline` runs inquiries with the same dispatch in one order, that of a
clock.

A poll is one event. It lets a worker go on as far as it can: over the end of a pause, to a permit,
into a call, and past every call that comes to an end meanwhile. What the calls of a worker come to
is laid down in its script, and at which poll they do is a part of the event.

A crew keeps books on what happened: the calls that were started, those that came to an end, and the
requests for pauses.
-/

namespace PostFilter

variable {κ : Type} {Answer : κ → Type} {α : Type}

/-! ### Scripts -/

/-- What the calls of a worker come to, from call `0` on, when they ask a given question: a request
for a pause, or an answer. -/
abbrev Script (κ : Type) (Answer : κ → Type) := (call : Nat) → (key : κ) → Except Pause (Answer key)

namespace Inquiry

/-- Whether the inquiry is at a question. -/
def asks : Inquiry κ Answer α → Bool
  | .done _ => false
  | .ask _ _ => true

/-- The pause for which the reply to the question asks. -/
def backoff? (reply : (key : κ) → Except Pause (Answer key)) :
    Inquiry κ Answer α → Option Pause
  | .done _ => none
  | .ask key _ =>
    match reply key with
    | .ok _ => none
    | .error pause => some pause

/-- The inquiry behind a reply. A question that was answered with a request for a pause stays. -/
def proceed (reply : (key : κ) → Except Pause (Answer key)) :
    Inquiry κ Answer α → Inquiry κ Answer α
  | .done a => .done a
  | .ask key next =>
    match reply key with
    | .ok answer => next answer
    | .error _ => .ask key next

/-- What is left of an inquiry after some calls. -/
def after (script : Script κ Answer) (i : Inquiry κ Answer α) : (calls : Nat) → Inquiry κ Answer α
  | 0 => i
  | calls + 1 => (i.after script calls).proceed (script calls)

end Inquiry

/-! ### Workers -/

/-- Whether a call of a worker is under way, or the worker was dropped. -/
inductive Phase where
  | resting
  | calling
  /-- Given up; `duringCall` says whether a call was under way. -/
  | dropped (duringCall : Bool)
  deriving DecidableEq, Repr

/-- One that makes an inquiry. -/
structure Worker (κ : Type) (Answer : κ → Type) (α : Type) where
  /-- The whole inquiry. -/
  task : Inquiry κ Answer α
  script : Script κ Answer
  /-- What is left of the inquiry. -/
  left : Inquiry κ Answer α := task
  /-- The calls that came to an end. -/
  ended : Nat := 0
  phase : Phase := .resting

namespace Worker

/-- The value of the inquiry, once the worker is done. -/
def value? (w : Worker κ Answer α) : Option α :=
  match w.phase, w.left with
  | .resting, .done a => some a
  | _, _ => none

/-- Whether the worker waits for its next call to start. -/
def isWaiting (w : Worker κ Answer α) : Bool := w.phase == .resting && w.left.asks

def isCalling (w : Worker κ Answer α) : Bool := w.phase == .calling

/-- Whether the worker was dropped while a call was under way. -/
def isCutShort (w : Worker κ Answer α) : Bool := w.phase == .dropped true

/-- Whether a call of the worker was started and has not come to an end. -/
def hasOpenCall (w : Worker κ Answer α) : Bool := w.isCalling || w.isCutShort

/-- Whether the worker is neither done nor dropped. -/
def isPending (w : Worker κ Answer α) : Bool := w.isWaiting || w.isCalling

/-- What the call of the worker comes to that was started last. -/
def reply (w : Worker κ Answer α) : (key : κ) → Except Pause (Answer key) := w.script w.ended

/-- The worker behind the end of its call. -/
def goOn (w : Worker κ Answer α) : Worker κ Answer α :=
  { w with left := w.left.proceed w.reply, ended := w.ended + 1, phase := .resting }

end Worker

/-! ### Crews -/

/-- The start of a call: its worker, the time, and the state of the pause then. -/
structure CallStart where
  worker : Nat
  time : Nat
  pause : PauseState

/-- The end of a call: its worker, and the pause for which it asked, if any. -/
structure CallEnd where
  worker : Nat
  backoff : Option Pause

/-- A request for a pause, and its time. -/
structure PauseRequest where
  time : Nat
  pause : Pause

/-- Whether the pause that was asked for lasts at a time. -/
def PauseRequest.lastsAt (r : PauseRequest) (time : Nat) : Prop :=
  match r.pause with
  | .lasting length => time < r.time + length
  | .untilResumed => True

/-- Workers that share one dispatch, and the books on what happened, the latest first. -/
structure Crew (κ : Type) (Answer : κ → Type) (α : Type) where
  now : Nat := 0
  dispatch : Dispatch
  workers : List (Worker κ Answer α) := []
  starts : List CallStart := []
  ends : List CallEnd := []
  /-- The requests for pauses, by hand and by calls, and `none` where a pause was ended by hand. -/
  history : List (Option PauseRequest) := []

/-- What may happen to a crew. -/
inductive CrewEvent (κ : Type) (Answer : κ → Type) (α : Type) where
  /-- Time passes. -/
  | pass (length : Nat)
  | pause (pause : Pause)
  | resume
  /-- A worker that waited for a deadline ends the pause with this deadline if that time has come.
  Meanwhile the pause may have become another one. -/
  | expire (deadline : Nat)
  | join (task : Inquiry κ Answer α) (script : Script κ Answer)
  /-- A worker is polled, and a number of its calls come to an end during that. -/
  | poll (worker ends : Nat)
  | drop (worker : Nat)

namespace Crew

/-- The crew without workers. -/
def ofLimit (limit : Nat) : Crew κ Answer α := { dispatch := Dispatch.ofLimit limit }

/-- Lets a worker without a call go on to its next one. -/
def advance (c : Crew κ Answer α) (n : Nat) : Crew κ Answer α :=
  match c.workers[n]? with
  | none => c
  | some w =>
    if w.isWaiting then
      let d := c.dispatch.poll c.now n
      if d.calling.contains n then
        { c with
          dispatch := d
          workers := c.workers.set n { w with phase := .calling }
          starts := ⟨n, c.now, d.pause⟩ :: c.starts }
      else { c with dispatch := d }
    else c

/-- Brings the call of a worker to its end. -/
def answer (c : Crew κ Answer α) (n : Nat) : Crew κ Answer α :=
  match c.workers[n]? with
  | none => c
  | some w =>
    if w.isCalling then
      let backoff := w.left.backoff? w.reply
      { c with
        dispatch := c.dispatch.finish c.now n backoff
        workers := c.workers.set n w.goOn
        ends := ⟨n, backoff⟩ :: c.ends
        history := (backoff.map fun pause => some ⟨c.now, pause⟩).toList ++ c.history }
    else c

/-- Polls a worker; some of its calls come to an end during that. -/
def poll (n : Nat) : (ends : Nat) → Crew κ Answer α → Crew κ Answer α
  | 0, c => c.advance n
  | ends + 1, c => poll n ends ((c.advance n).answer n)

/-- Drops a worker, unless it is done. -/
def drop (c : Crew κ Answer α) (n : Nat) : Crew κ Answer α :=
  match c.workers[n]? with
  | none => c
  | some w =>
    if w.isPending then
      { c with
        dispatch := c.dispatch.abandon n
        workers := c.workers.set n { w with phase := .dropped w.isCalling } }
    else c

/-- What an event makes of a crew. -/
def apply (c : Crew κ Answer α) : CrewEvent κ Answer α → Crew κ Answer α
  | .pass length => { c with now := c.now + length }
  | .pause pause =>
    { c with
      dispatch := c.dispatch.suspend c.now pause
      history := some ⟨c.now, pause⟩ :: c.history }
  | .resume => { c with dispatch := c.dispatch.resume, history := none :: c.history }
  | .expire deadline =>
    if deadline ≤ c.now then
      { c with dispatch := { c.dispatch with pause := c.dispatch.pause.expire deadline } }
    else c
  | .join task script => { c with workers := c.workers ++ [{ task := task, script := script }] }
  | .poll n ends => c.poll n ends
  | .drop n => c.drop n

/-- What some events make of a crew. -/
def run (c : Crew κ Answer α) (events : List (CrewEvent κ Answer α)) : Crew κ Answer α :=
  events.foldl apply c

/-- The crew after some events. -/
def after (limit : Nat) (events : List (CrewEvent κ Answer α)) : Crew κ Answer α :=
  (ofLimit limit).run events

/-- The calls of a worker that were started. -/
def startsOf (c : Crew κ Answer α) (n : Nat) : Nat := c.starts.countP fun s => s.worker == n

/-- The calls of a worker that asked for a pause. -/
def backoffsOf (c : Crew κ Answer α) (n : Nat) : Nat :=
  c.ends.countP fun e => e.worker == n && e.backoff.isSome

/-- The requests for pauses since a pause was last ended by hand. -/
def requests (c : Crew κ Answer α) : List PauseRequest :=
  (c.history.takeWhile Option.isSome).filterMap id

end Crew

end PostFilter
