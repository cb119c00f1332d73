import PostFilter.Verdict.Outcome
import PostFilter.Verdict.SpellValue

/-!
# Verdicts — the walk

A filter is walked with a stack of frames, one for each group that is open. A frame knows the
members it has not visited and what the visited ones came to. The walk takes the next member that
matters of the topmost frame: a spell is examined, a group is opened, and a frame without further
members is closed and its outcome handed to the frame below.

The walk stops only where a spell asks; the stack is part of what goes on with the answer.
-/

namespace PostFilter

/-- One open group. -/
structure Frame where
  negated : Bool
  /-- The members not visited yet. -/
  members : List Member
  /-- What the visited members came to. -/
  found : Option Outcome := none
  /-- The joiner before the members not visited yet. -/
  link : Joiner := .or
  /-- The joiner with which the next outcome is joined. -/
  pending : Joiner := .or

namespace Frame

/-- The frame of a group that was just opened. -/
def ofGroup (g : Group) : Frame := { negated := g.negated, members := g.members }

/-- The next clause that matters and the frame behind it; members that cannot change the value are
passed over. -/
def next? (f : Frame) : Option (Clause × Frame) := go f.link f.members
where
  /-- The next clause among members with a joiner before them. -/
  go (link : Joiner) : List Member → Option (Clause × Frame)
    | [] => none
    | m :: rest =>
      if f.found.any fun o => o.settles link then go m.joiner rest
      else some (m.clause, ⟨f.negated, rest, f.found, m.joiner, link⟩)

/-- The frame with an outcome that was waited for, if there is one. -/
def accept (f : Frame) : Option Outcome → Frame
  | none => f
  | some o => { f with found := some (Outcome.joinTo f.found f.pending o) }

/-- The outcome of a frame without further members. -/
def close (f : Frame) : Outcome := (f.found.getD Outcome.nothing).negateIf f.negated

/-- A bound on the steps that a frame still takes. -/
noncomputable def weight (f : Frame) : Nat := sizeOf f.members + 1

theorem weight_accept (f : Frame) (o : Option Outcome) : (f.accept o).weight = f.weight := by
  cases o <;> rfl

/-- The clause that comes next and the frame behind it are together smaller than the frame. -/
theorem weight_next? {f f' : Frame} {c : Clause} (h : f.next? = some (c, f')) :
    sizeOf c + f'.weight < f.weight := by
  have go_lt : ∀ (members : List Member) (link : Joiner), next?.go f link members = some (c, f') →
      sizeOf c + f'.weight < sizeOf members + 1 := by
    intro members
    induction members with
    | nil => intro link h; simp [next?.go] at h
    | cons m rest ih =>
      intro link h
      obtain ⟨clause, joiner⟩ := m
      rw [next?.go] at h
      split at h
      · have := ih _ h
        simp only [List.cons.sizeOf_spec]
        omega
      · cases h
        simp only [weight, List.cons.sizeOf_spec, Member.mk.sizeOf_spec]
        omega
  exact go_lt f.members f.link h

/-- A bound on the steps that a stack still takes. -/
noncomputable def stackWeight : List Frame → Nat
  | [] => 0
  | f :: stack => f.weight + stackWeight stack

@[simp] theorem stackWeight_cons (f : Frame) (stack : List Frame) :
    stackWeight (f :: stack) = f.weight + stackWeight stack := rfl

end Frame

/-- Walks with the given stack; `returned` is an outcome that the topmost frame waits for. -/
def Frame.walk (settings : Settings) (post : Post) (stack : List Frame)
    (returned : Option Outcome) (degraded : Bool) : PostInquiry Finding :=
  match stack with
  | [] => .done ⟨Outcome.nothing, degraded⟩
  | frame :: below =>
    match _h : (frame.accept returned).next? with
    | none =>
      let outcome := (frame.accept returned).close
      match below with
      | [] => .done ⟨outcome, degraded⟩
      | next :: rest => Frame.walk settings post (next :: rest) (some outcome) degraded
    | some (.spell s, frame') =>
      (s.examine settings post).bind fun v =>
        Frame.walk settings post (frame' :: below) (some ⟨v.value s.negated, [s]⟩)
          (degraded || v.lookupFailed)
    | some (.group g, frame') =>
      Frame.walk settings post (Frame.ofGroup g :: frame' :: below) none degraded
termination_by Frame.stackWeight stack
decreasing_by
  · simp [Frame.weight]
  · have := Frame.weight_next? _h
    rw [Frame.weight_accept] at this
    simp only [Frame.stackWeight_cons]
    omega
  · have := Frame.weight_next? _h
    rw [Frame.weight_accept] at this
    simp only [Frame.stackWeight_cons, Frame.ofGroup, Frame.weight] at this ⊢
    obtain ⟨negated, members⟩ := g
    simp only [Clause.group.sizeOf_spec, Group.mk.sizeOf_spec] at this ⊢
    omega

/-- What a group comes to for a post. -/
def Group.walk (settings : Settings) (post : Post) (g : Group) : PostInquiry Finding :=
  Frame.walk settings post [Frame.ofGroup g] none false

end PostFilter
