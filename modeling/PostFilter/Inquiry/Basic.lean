/-!
# Inquiries

An inquiry is a computation that may stop to ask an outside service and goes on with the answer. It
is given as a tree: at each question, one continuation for every answer. So nothing that was
decided before a question is decided again after it, and whoever runs the inquiry is free to let
time pass at each question, or to give the inquiry up there.

`Inquiry.run` answers every question from a table, and lists the questions.
-/

namespace PostFilter

/-- A computation that asks questions `key`, each with answers of type `Answer key`. -/
inductive Inquiry (κ : Type) (Answer : κ → Type) (α : Type) where
  | done (value : α)
  | ask (key : κ) (next : Answer key → Inquiry κ Answer α)

namespace Inquiry

variable {κ : Type} {Answer : κ → Type} {α β : Type}

/-- Goes on with a second inquiry that knows the value of the first. -/
def bind : Inquiry κ Answer α → (α → Inquiry κ Answer β) → Inquiry κ Answer β
  | .done a, f => f a
  | .ask key next, f => .ask key fun answer => (next answer).bind f

/-- One question. -/
def single (key : κ) : Inquiry κ Answer (Answer key) := .ask key .done

/-- The value of an inquiry and the questions it asked, when a table gives the answers. -/
def run (answers : (key : κ) → Answer key) : Inquiry κ Answer α → α × List κ
  | .done a => (a, [])
  | .ask key next =>
    let (a, keys) := (next (answers key)).run answers
    (a, key :: keys)

/-- The value of an inquiry, when a table gives the answers. -/
def value (answers : (key : κ) → Answer key) (i : Inquiry κ Answer α) : α := (i.run answers).1

@[simp] theorem pure_bind (a : α) (f : α → Inquiry κ Answer β) : (done a).bind f = f a := rfl

@[simp] theorem run_bind (answers : (key : κ) → Answer key) (i : Inquiry κ Answer α)
    (f : α → Inquiry κ Answer β) :
    (i.bind f).run answers =
      (((f (i.run answers).1).run answers).1,
        (i.run answers).2 ++ ((f (i.run answers).1).run answers).2) := by
  induction i with
  | done a => rfl
  | ask key next ih => simp [bind, run, ih]

end Inquiry

end PostFilter
