import Mathlib.Tactic

/-!
# Queues and what is logged of them

A queue that may be polled while it is empty: the poll then sends silence.
`Run` is what it may log between two contents, and `InOrder` what a reader of
the log sees of a queue that was empty when it began.
-/

namespace Queue

variable {α : Type*}

inductive Event (α : Type*)
  | pushed (x : α)
  | sent (x : α)
  | silence

def Event.pushed? : Event α → Option α
  | .pushed x => some x
  | _ => none

def Event.sent? : Event α → Option α
  | .sent x => some x
  | _ => none

def pushedIn (log : List (Event α)) : List α := log.filterMap Event.pushed?

def sentIn (log : List (Event α)) : List α := log.filterMap Event.sent?

inductive Run : List α → List (Event α) → List α → Prop
  | done {waiting : List α} : Run waiting [] waiting
  | pushed {x : α} {waiting left : List α} {log : List (Event α)} :
      Run (waiting ++ [x]) log left → Run waiting (.pushed x :: log) left
  | sent {x : α} {waiting left : List α} {log : List (Event α)} :
      Run waiting log left → Run (x :: waiting) (.sent x :: log) left
  | silence {left : List α} {log : List (Event α)} :
      Run [] log left → Run [] (.silence :: log) left

variable {waiting left left' : List α} {log log' before after : List (Event α)}

theorem Run.append (h : Run waiting log left) (h' : Run left log' left') :
    Run waiting (log ++ log') left' := by
  induction h with
  | done => exact h'
  | pushed _ ih => exact .pushed (ih h')
  | sent _ ih => exact .sent (ih h')
  | silence _ ih => exact .silence (ih h')

/-- Nothing is lost, repeated or overtaken. -/
theorem Run.conserves (h : Run waiting log left) :
    waiting ++ pushedIn log = sentIn log ++ left := by
  induction h with
  | done => exact List.append_nil _
  | pushed _ ih =>
    rw [List.append_assoc] at ih
    exact ih
  | sent _ ih => exact congrArg _ ih
  | silence _ ih => exact ih

/-- Silence means that nothing waits. -/
theorem Run.before_silence (h : Run waiting (before ++ .silence :: after) left) :
    waiting ++ pushedIn before = sentIn before := by
  induction before generalizing waiting with
  | nil =>
    cases h
    rfl
  | cons event rest ih =>
    cases h with
    | pushed hrest =>
      have htail := ih hrest
      rw [List.append_assoc] at htail
      exact htail
    | sent hrest => exact congrArg _ (ih hrest)
    | silence hrest => exact ih hrest

/-- What has been sent is the beginning of what has been pushed, and all of
it wherever there is silence. -/
structure InOrder (log : List (Event α)) : Prop where
  order : sentIn log <+: pushedIn log
  silence : ∀ before after, log = before ++ .silence :: after → sentIn before = pushedIn before

theorem Run.ordered (h : Run [] log left) : InOrder log := by
  refine ⟨⟨left, h.conserves.symm⟩, ?_⟩
  rintro before after rfl
  exact h.before_silence.symm

end Queue
