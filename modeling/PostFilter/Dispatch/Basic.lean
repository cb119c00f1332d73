import PostFilter.Dispatch.Pause

/-!
# Dispatch

Lookups are started a few at a time. A run, which is known by a number, needs a permit while its
call is under way; there are `limit` permits. Runs queue for a permit in the order in which they
come, and one that is given back is handed to the run that has waited longest.

A run goes through these stages: it waits for a pause to end, it queues, it is granted a permit, it
calls. A run that was granted a permit and finds dispatch paused gives the permit back and waits
again. A call that asks for a pause gives its permit back first; then the pause begins, and the run
waits for its end.
-/

namespace PostFilter

/-- The permits, the runs that hold or want one, the pause, and the counts. -/
structure Dispatch where
  /-- All permits. -/
  limit : Nat
  /-- The permits that no run holds. -/
  free : Nat
  /-- The runs that wait for a permit, the first to come in front. -/
  queue : List Nat := []
  /-- The runs that were handed a permit and have not gone on since. -/
  granted : List Nat := []
  /-- The runs whose call is under way. -/
  calling : List Nat := []
  pause : PauseState := .running
  /-- Calls that were started. -/
  dispatched : Nat := 0
  /-- Calls that asked for a pause. -/
  backoffs : Nat := 0
  deriving DecidableEq

namespace Dispatch

/-- Dispatch with the given number of permits, at least one. -/
def ofLimit (limit : Nat) : Dispatch := { limit := max 1 limit, free := max 1 limit }

/-- The number of permits when nothing else is said. -/
def defaultLimit : Nat := 4

def isPaused (d : Dispatch) (now : Nat) : Bool := d.pause.isPaused now

/-- Asks for a pause. -/
def suspend (d : Dispatch) (now : Nat) (pause : Pause) : Dispatch :=
  { d with pause := d.pause.request now pause }

/-- Ends any pause. -/
def resume (d : Dispatch) : Dispatch := { d with pause := .running }

/-- Gives one permit back. -/
def release (d : Dispatch) : Dispatch :=
  match d.queue with
  | [] => { d with free := d.free + 1 }
  | run :: rest => { d with queue := rest, granted := d.granted ++ [run] }

/-- Starts the call of a run that holds a permit which is counted nowhere else. -/
def start (d : Dispatch) (run : Nat) : Dispatch :=
  { d with calling := d.calling ++ [run], dispatched := d.dispatched + 1 }

/-- Lets a run without a call under way go on as far as it can. -/
def poll (d : Dispatch) (now run : Nat) : Dispatch :=
  if d.granted.contains run then
    let d := { d with granted := d.granted.erase run }
    if d.isPaused now then d.release else d.start run
  else if d.queue.contains run || d.isPaused now then d
  else
    let d := { d with pause := d.pause.settle now }
    if d.free = 0 then { d with queue := d.queue ++ [run] }
    else { d with free := d.free - 1 }.start run

/-- Ends the call of a run, which may have asked for a pause. -/
def finish (d : Dispatch) (now run : Nat) (backoff : Option Pause) : Dispatch :=
  let d := { d with calling := d.calling.erase run }.release
  match backoff with
  | none => d
  | some pause => { d with backoffs := d.backoffs + 1 }.suspend now pause

/-- Gives a run up at whatever stage it is. -/
def abandon (d : Dispatch) (run : Nat) : Dispatch :=
  if d.calling.contains run then { d with calling := d.calling.erase run }.release
  else if d.granted.contains run then { d with granted := d.granted.erase run }.release
  else { d with queue := d.queue.erase run }

end Dispatch

end PostFilter
