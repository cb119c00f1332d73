import PostFilter.Text.Duration

/-!
# Dispatch — pauses

A service that is asked too often may ask for a pause. While a pause lasts, no lookup is started. A
pause lasts for a length of time or until it is ended by hand. Of two pauses the longer one wins, so
the end of the shorter one never ends the other.

Times and lengths are in nanoseconds.
-/

namespace PostFilter

/-- A request for a pause. -/
inductive Pause where
  | lasting (length : Nat)
  | untilResumed
  deriving DecidableEq, Repr

/-- Why a lookup came to nothing. -/
inductive LookupFault where
  | failed (reason : String)
  | unavailable
  | backoff (pause : Pause)
  deriving DecidableEq, Repr

/-- Whether dispatch is paused, and for how long. -/
inductive PauseState where
  | running
  | pausedUntil (deadline : Nat)
  | pausedUntilResumed
  deriving DecidableEq, Repr, Inhabited

/-- The words for a fault. -/
def LookupFault.message : LookupFault → String
  | .failed reason => "Lookup failed: " ++ reason
  | .unavailable => "No provider available"
  | .backoff (.lasting length) => "Provider asked to pause for " ++ Text.duration length
  | .backoff .untilResumed => "Provider asked to pause until resumed"

namespace PauseState

/-- The state that a request made at a given time asks for. -/
def ofPause (now : Nat) : Pause → PauseState
  | .lasting length => .pausedUntil (now + length)
  | .untilResumed => .pausedUntilResumed

/-- The longer of two pauses. -/
def merge : PauseState → PauseState → PauseState
  | .pausedUntilResumed, _ => .pausedUntilResumed
  | _, .pausedUntilResumed => .pausedUntilResumed
  | .pausedUntil a, .pausedUntil b => .pausedUntil (max a b)
  | .running, s => s
  | s, .running => s

/-- The state after a request for a pause. -/
def request (s : PauseState) (now : Nat) (pause : Pause) : PauseState := s.merge (ofPause now pause)

/-- Whether a pause lasts at the given time; at its deadline it is over. -/
def isPaused (s : PauseState) (now : Nat) : Bool :=
  match s with
  | .running => false
  | .pausedUntil deadline => now < deadline
  | .pausedUntilResumed => true

/-- Ends the pause with the given deadline, unless it was replaced. -/
def expire (s : PauseState) (deadline : Nat) : PauseState :=
  if s = .pausedUntil deadline then .running else s

/-- Ends a pause that is over. -/
def settle (s : PauseState) (now : Nat) : PauseState :=
  match s with
  | .pausedUntil deadline => if now < deadline then s else s.expire deadline
  | s => s

end PauseState

end PostFilter
