import PostFilter.Verdict.Walk

/-!
# Verdicts — the walk step by step

The walk as a loop. Each round hands a returned outcome to the topmost frame and takes the next
member that matters from it: a spell is examined, a group gets a frame of its own, and a frame
without such a member is taken off the stack and closed. A round that looks for a frame where there
is none ends the walk without a finding (`WalkState.lost`); there are two places where it may look.
-/

namespace PostFilter

/-- Where a walk is. -/
inductive WalkState where
  /-- Between two rounds; `returned` is an outcome that the topmost frame waits for. -/
  | running (stack : List Frame) (returned : Option Outcome) (degraded : Bool)
  /-- The filter is decided. -/
  | finished (finding : Finding)
  /-- A frame was looked for where there was none. -/
  | lost (degraded : Bool)

namespace WalkState

/-- The walk of a group before its first round. -/
def start (g : Group) : WalkState := .running [Frame.ofGroup g] none false

/-- One round. A walk that is over stays as it is. -/
def step (settings : Settings) (post : Post) : WalkState → PostInquiry WalkState
  | .running stack returned degraded =>
    match stack.head? with
    | none => .done (.lost degraded)
    | some top =>
      let frame := top.accept returned
      match frame.next? with
      | some (.spell s, behind) =>
        (s.examine settings post).bind fun v =>
          .done (.running (behind :: stack.tail) (some ⟨v.value s.negated, [s]⟩)
            (degraded || v.lookupFailed))
      | some (.group g, behind) =>
        .done (.running (Frame.ofGroup g :: behind :: stack.tail) none degraded)
      | none =>
        match stack with
        | [] => .done (.lost degraded)
        | _ :: below =>
          if below.isEmpty then .done (.finished ⟨frame.close, degraded⟩)
          else .done (.running below (some frame.close) degraded)
  | .finished finding => .done (.finished finding)
  | .lost degraded => .done (.lost degraded)

/-- Some rounds. -/
def steps (settings : Settings) (post : Post) : Nat → WalkState → PostInquiry WalkState
  | 0, state => .done state
  | n + 1, state => (state.step settings post).bind (steps settings post n)

/-- Whether the walk is lost. -/
def isLost : WalkState → Bool
  | .lost _ => true
  | _ => false

end WalkState

end PostFilter
