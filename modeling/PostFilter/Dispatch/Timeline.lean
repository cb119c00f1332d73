import PostFilter.Dispatch.Basic
import PostFilter.Inquiry.Basic

/-!
# Dispatch — timeline

Inquiries on a clock. Tasks run side by side; each question of a task is a run of the shared
dispatch, and a scripted service says how long its calls take and what they come to. Between two
instants nothing happens: when no task can go on, the clock jumps to the next instant at which
something is due.

At an instant the controls that are due are carried out first. Then the tasks go on in their order,
each as far as it can, and again from the first one until none of them moves. A task whose patience
is over is given up, unless it ends at the same instant.
-/

namespace PostFilter

/-- What a call comes to after a delay: a request for a pause, or an answer. -/
structure Reply (β : Type) where
  delay : Nat := 0
  result : Except Pause β

/-- The reply to a call before which `earlier` calls were made: the last reply repeats. -/
def Reply.nth {β : Type} (replies : List (Reply β)) (earlier : Nat) (otherwise : Reply β) :
    Reply β :=
  match replies[earlier]? with
  | some reply => reply
  | none => replies.getLast?.getD otherwise

/-- A service whose replies are laid down. Calls with the same label are counted together. -/
structure Service (κ : Type) (Answer : κ → Type) where
  label : κ → String
  reply : (key : κ) → (earlier : Nat) → Reply (Answer key)

/-- What a control does. -/
inductive Control where
  | look
  | pause (pause : Pause)
  | resume
  deriving DecidableEq, Repr

/-- What a control found: whether dispatch was paused before and after it, and the counts. -/
structure Observation where
  before : Bool
  after : Bool
  dispatched : Nat
  backoffs : Nat
  deriving DecidableEq, Repr

/-- The clock, the dispatch, and what happened so far. -/
structure Timeline where
  now : Nat := 0
  dispatch : Dispatch
  /-- The controls that are not carried out yet, with their times. -/
  controls : List (Nat × Control) := []
  /-- What the controls found, the latest first. -/
  observations : List Observation := []
  /-- The times and labels of all calls, the latest first. -/
  calls : List (Nat × String) := []
  /-- The greatest number of calls under way at once. -/
  peak : Nat := 0

/-- Where a task stands. -/
inductive TaskState (κ : Type) (Answer : κ → Type) (α : Type) where
  | idle (inquiry : Inquiry κ Answer α)
  /-- At a question whose call is not started, or at its end. -/
  | active (inquiry : Inquiry κ Answer α) (deadline : Option Nat)
  /-- At a question whose call is under way until `due`. -/
  | calling (key : κ) (next : Answer key → Inquiry κ Answer α) (due : Nat)
      (result : Except Pause (Answer key)) (deadline : Option Nat)
  /-- Over at a time, with a value or given up. -/
  | over (value : Option α) (time : Nat)

/-- An inquiry that begins at a time and is given up when it takes longer than its patience. -/
structure Task (κ : Type) (Answer : κ → Type) (α : Type) where
  start : Nat := 0
  patience : Option Nat := none
  state : TaskState κ Answer α

namespace Timeline

/-! ### Controls -/

/-- Carries out one control. -/
def control (t : Timeline) (c : Control) : Timeline :=
  let before := t.dispatch.isPaused t.now
  let d : Dispatch :=
    match c with
    | .look => t.dispatch
    | .pause pause => t.dispatch.suspend t.now pause
    | .resume => t.dispatch.resume
  { t with
    dispatch := d
    observations := ⟨before, d.isPaused t.now, d.dispatched, d.backoffs⟩ :: t.observations }

/-- Carries out controls in order, as long as they are due. -/
def controlDue (t : Timeline) : List (Nat × Control) → Timeline
  | [] => { t with controls := [] }
  | (time, c) :: rest =>
    if time ≤ t.now then (t.control c).controlDue rest else { t with controls := (time, c) :: rest }

/-- Carries out controls, each when its time comes. -/
def controlAll (t : Timeline) : List (Nat × Control) → Timeline
  | [] => { t with controls := [] }
  | (time, c) :: rest => ({ t with now := max t.now time }.control c).controlAll rest

/-- Carries out all controls that are left. -/
def finish (t : Timeline) : Timeline := t.controlAll t.controls

/-! ### Tasks -/

variable {κ : Type} {Answer : κ → Type} {α : Type}

/-- Whether a time has come. -/
def reached (t : Timeline) (time : Option Nat) : Bool := time.any fun n => n ≤ t.now

/-- Gives a task up if its time is over. -/
def giveUpAt (t : Timeline) (run : Nat) (deadline : Option Nat) :
    Option (Timeline × TaskState κ Answer α) :=
  if t.reached deadline then
    some ({ t with dispatch := t.dispatch.abandon run }, .over none t.now)
  else none

/-- Notes the start of a call. -/
def noteCall (t : Timeline) (label : String) : Timeline :=
  { t with
    calls := (t.now, label) :: t.calls
    peak := max t.peak t.dispatch.calling.length }

/-- Lets a task make one move; nothing if it cannot go on now. -/
def move (service : Service κ Answer) (t : Timeline) (run : Nat) (task : Task κ Answer α) :
    Option (Timeline × TaskState κ Answer α) :=
  match task.state with
  | .idle inquiry =>
    if task.start ≤ t.now then some (t, .active inquiry (task.patience.map fun n => t.now + n))
    else none
  | .active (.done value) _ => some (t, .over (some value) t.now)
  | .active (.ask key next) deadline =>
    let d := t.dispatch.poll t.now run
    if d.calling.contains run then
      let label := service.label key
      let reply := service.reply key (t.calls.countP fun call => call.2 == label)
      some ({ t with dispatch := d }.noteCall label,
        .calling key next (t.now + reply.delay) reply.result deadline)
    else if d = t.dispatch then t.giveUpAt run deadline
    else some ({ t with dispatch := d }, .active (.ask key next) deadline)
  | .calling key next due result deadline =>
    if due ≤ t.now then
      match result with
      | .ok answer =>
        some ({ t with dispatch := t.dispatch.finish t.now run none },
          .active (next answer) deadline)
      | .error pause =>
        some ({ t with dispatch := t.dispatch.finish t.now run (some pause) },
          .active (.ask key next) deadline)
    else t.giveUpAt run deadline
  | .over _ _ => none

/-- Whether a task is over. -/
def isOver (task : Task κ Answer α) : Bool :=
  match task.state with
  | .over _ _ => true
  | _ => false

/-- The times at which a task may go on by itself. -/
def timesOf (task : Task κ Answer α) : List Nat :=
  match task.state with
  | .idle _ => [task.start]
  | .active _ deadline => deadline.toList
  | .calling _ _ due _ deadline => due :: deadline.toList
  | .over _ _ => []

/-- The next instant at which something is due. -/
def nextTime? (t : Timeline) (horizon : Option Nat) (tasks : List (Task κ Answer α)) :
    Option Nat :=
  let pauseEnd :=
    match t.dispatch.pause with
    | .pausedUntil deadline => [deadline]
    | _ => []
  let times := horizon.toList ++ pauseEnd ++ (t.controls.head?.map Prod.fst).toList ++
    tasks.flatMap timesOf
  (times.filter fun time => t.now < time).min?

/-- Gives up a task that is not over. -/
def giveUp (t : Timeline) (run : Nat) (task : Task κ Answer α) : Timeline × Task κ Answer α :=
  if isOver task then (t, task)
  else ({ t with dispatch := t.dispatch.abandon run }, { task with state := .over none t.now })

/-- Gives up all tasks that are not over; `run` is the number of the first one. -/
def giveUpAll (t : Timeline) (run : Nat) : List (Task κ Answer α) →
    Timeline × List (Task κ Answer α)
  | [] => (t, [])
  | task :: rest =>
    let (t, task) := t.giveUp run task
    let (t, rest) := t.giveUpAll (run + 1) rest
    (t, task :: rest)

/-- Runs tasks from the task number `run` on; `moved` says whether a task made a move since the
first one was tried. At the `horizon` all tasks are given up. At most `steps` moves and tries are
made. -/
def runFrom (service : Service κ Answer) (horizon : Option Nat) : (steps : Nat) → (t : Timeline) →
    (tasks : List (Task κ Answer α)) → (run : Nat) → (moved : Bool) →
    Timeline × List (Task κ Answer α)
  | 0, t, tasks, _, _ => (t, tasks)
  | steps + 1, t, tasks, run, moved =>
    match tasks[run]? with
    | some task =>
      match t.move service run task with
      | some (t, state) =>
        runFrom service horizon steps t (tasks.set run { task with state := state }) run true
      | none => runFrom service horizon steps t tasks (run + 1) moved
    | none =>
      if tasks.all isOver then (t, tasks)
      else if t.reached horizon then t.giveUpAll 0 tasks
      else if moved then runFrom service horizon steps t tasks 0 false
      else
        match t.nextTime? horizon tasks with
        | none => (t, tasks)
        | some time =>
          let t := { t with now := time }
          runFrom service horizon steps (t.controlDue t.controls) tasks 0 false

/-- A number of steps that no run comes near, except where a service asks for pauses of no length
without end. -/
def manySteps : Nat := Nat.pow 2 62

/-- Runs tasks until all are over, or until the `horizon`. -/
def run (service : Service κ Answer) (horizon : Option Nat) (t : Timeline)
    (tasks : List (Task κ Answer α)) : Timeline × List (Task κ Answer α) :=
  runFrom service horizon manySteps (t.controlDue t.controls) tasks 0 false

/-- The value with which a task ended. -/
def valueOf? (task : Task κ Answer α) : Option α :=
  match task.state with
  | .over value _ => value
  | _ => none

/-- Runs inquiries side by side from now on for at most `patience`; nothing comes out if one of
them takes longer. -/
def runAll (service : Service κ Answer) (patience : Nat) (t : Timeline)
    (inquiries : List (Inquiry κ Answer α)) : Timeline × Option (List α) :=
  let (t, tasks) := t.run service (some (t.now + patience)) (inquiries.map fun i =>
    { start := t.now, state := .idle i })
  (t, tasks.mapM valueOf?)

end Timeline

end PostFilter
