import LoginGate.Flow.Controller

/-!
# The course of an attempt

The surroundings drive an attempt by calls: they start it, and they resume it
with the outcome that it waits for. The *course* of an attempt is what comes of
such calls one after another, whatever calls they are: the situation that they
end in, with the events of all of them, and their results.

A call that the attempt is not ready for is refused. The result of a course is
that of the last call that was accepted (`result?_extend`).
-/

namespace LoginGate

/-- A call of the controller for an attempt. -/
inductive Call where
  /-- The attempt is started. -/
  | start
  /-- The attempt is resumed with an outcome. -/
  | resume (outcome : Outcome)
deriving DecidableEq, Repr

/-- The outcome that a call gives, if it gives one. -/
def Call.outcome? : Call → Option Outcome
  | .start => none
  | .resume outcome => some outcome

/-- Whether the error refuses a call, instead of ending the attempt. -/
def FlowError.isRefusal : FlowError → Bool
  | .alreadyStarted | .notSuspended => true
  | _ => false

/-- The error with which a call is refused. -/
def Call.refusal : Call → FlowError
  | .start => .alreadyStarted
  | .resume _ => .notSuspended

/-- Whether the result of a call says that the call was refused. -/
def isRefused : Except FlowError Progress → Bool
  | .ok _ => false
  | .error e => e.isRefusal

@[simp] theorem isRefused_refusal (call : Call) : isRefused (.error call.refusal) = true := by
  cases call <;> rfl

/-- The attempt is ready for a call. -/
def Execution.Admits (e : Execution) : Call → Prop
  | .start => e.state = .notStarted
  | .resume _ => ∃ step, e.state = .suspended step

/-! ### Views of events -/

namespace FlowEvent

/-- The outcome that a step reported, if the event is about one. -/
def outcome? : FlowEvent → Option Outcome
  | .reported _ outcome => some outcome
  | _ => none

/-- What a step came to, if the event tells. -/
def answer? : FlowEvent → Option (Except StepError Outcome)
  | .reported _ outcome => some (.ok outcome)
  | .failed (.step _ cause) => some (.error cause)
  | _ => none

/-- Whether the principal is within the limit, or why that is not known, if the
    event tells. -/
def verdict? : FlowEvent → Option (Except PolicyError Bool)
  | .decided within => some (.ok within)
  | .failed (.policy _ cause) => some (.error cause)
  | _ => none

/-- The count that the registry was asked for, if the event is about one. -/
def reading? : FlowEvent → Option Reading
  | .counted reading => some reading
  | _ => none

end FlowEvent

namespace Situation

variable {σ : Type} (s : Situation σ)

/-- What the events of a situation show, in order. -/
def view {α : Type} (f : FlowEvent → Option α) : List α := s.events.filterMap f

/-- The outcomes that steps reported, in order. -/
def outcomes : List Outcome := s.view FlowEvent.outcome?

/-- What the steps came to, in the order of their execution. -/
def answers : List (Except StepError Outcome) := s.view FlowEvent.answer?

/-- What the evaluations of the limit came to. -/
def verdicts : List (Except PolicyError Bool) := s.view FlowEvent.verdict?

/-- The counts that the registry was asked for. -/
def readings : List Reading := s.view FlowEvent.reading?

/-- The diagnostics. -/
def diagnostics : List String := s.view FlowEvent.diagnostic?

section View

variable {s} {α : Type} {f : FlowEvent → Option α}

@[simp] theorem view_note (e : FlowEvent) : (s.note e).view f = s.view f ++ (f e).toList := by
  rw [view, note, List.filterMap_append]
  cases h : f e <;> simp [view, h]

@[simp] theorem view_withExecution (g : Execution → Execution) :
    (s.withExecution g).view f = s.view f := rfl

@[simp] theorem view_withPending (pending : List Pending) :
    (s.withPending pending).view f = s.view f := rfl

@[simp] theorem view_schedule (steps : List StepId) : (s.schedule steps).view f = s.view f := rfl

@[simp] theorem view_take (step : StepId) (rest : List Pending) :
    (s.take step rest).view f = s.view f ++ (f (.executing step)).toList :=
  view_note (s := s.withPending rest) _

@[simp] theorem view_accept (reply : StepReply σ) : (s.accept reply).view f = s.view f := rfl

@[simp] theorem view_suspend (p : Pending) :
    (s.suspend p).view f = s.view f ++ (f (.suspended p.step)).toList := view_note _

@[simp] theorem view_wake : s.wake.view f = s.view f := rfl

@[simp] theorem view_report (step : StepId) (outcome : Outcome) :
    (s.report step outcome).view f = s.view f ++ (f (.reported step outcome)).toList := view_note _

@[simp] theorem view_enterGate (gate : SessionLimitGate) :
    (s.enterGate gate).view f = s.view f := rfl

@[simp] theorem view_read (evaluation : Evaluation σ) :
    (s.read evaluation).view f =
      s.view f ++ evaluation.reading.toList.filterMap fun r => f (.counted r) := by
  rw [view, read, List.filterMap_append, List.filterMap_map]
  rfl

@[simp] theorem view_finish (last : Outcome) : (s.finish last).view f = s.view f := rfl

@[simp] theorem view_fail (error : FlowError) :
    (s.fail error).view f = s.view f ++ (f (.failed error)).toList := view_note _

/-- An event that is not shown leaves the view as it is. -/
theorem view_suspend_of_none {p : Pending} (h : f (.suspended p.step) = none) :
    (s.suspend p).view f = s.view f := by
  rw [view_suspend, h, Option.toList_none, List.append_nil]

theorem view_fail_of_none {error : FlowError} (h : f (.failed error) = none) :
    (s.fail error).view f = s.view f := by
  rw [view_fail, h, Option.toList_none, List.append_nil]

end View

end Situation

/-! ### Courses -/

/-- What came of calls made one after another. -/
structure Course (σ : Type) where
  /-- The situation after the last call, with the events of all. -/
  situation : Situation σ
  /-- The calls, in order, with their results. -/
  calls : List (Call × Except FlowError Progress)

namespace Course

variable {σ : Type} (k : Course σ)

/-- The state of the execution of the attempt. -/
def execution : Execution := k.situation.attempt.execution

/-- The calls that were not refused, with their results. -/
def accepted : List (Call × Except FlowError Progress) := k.calls.filter fun r => !isRefused r.2

/-- The result of the last accepted call, if there is one. -/
def result? : Option (Except FlowError Progress) := k.accepted.getLast?.map Prod.snd

/-- The outcomes that the attempt was resumed with. -/
def told : List Outcome := k.accepted.filterMap fun r => r.1.outcome?

end Course

namespace Controller

variable {σ : Type} (c : Controller σ)

/-- Makes a call. -/
def perform : Call → Situation σ → Except FlowError Progress × Situation σ
  | .start => c.startIn
  | .resume outcome => c.resumeIn outcome

/-- The course after one more call. -/
def extend (k : Course σ) (call : Call) : Course σ :=
  let r := c.perform call k.situation
  ⟨r.2, k.calls ++ [(call, r.1)]⟩

/-- The course of an attempt under calls. -/
def course (calls : List Call) (attempt : Attempt) (state : σ) : Course σ :=
  calls.foldl c.extend ⟨⟨attempt, state, []⟩, []⟩

/-- A call that the attempt is not ready for is refused and changes nothing. -/
theorem perform_of_not_admits {call : Call} {s : Situation σ}
    (h : ¬s.attempt.execution.Admits call) : c.perform call s = (.error call.refusal, s) := by
  cases call with
  | start => exact if_neg h
  | resume outcome =>
    rw [perform, resumeIn]
    split
    · next step hs => exact absurd ⟨step, hs⟩ h
    · rfl

theorem accepted_extend (k : Course σ) (call : Call) :
    (c.extend k call).accepted =
      if isRefused (c.perform call k.situation).1 then k.accepted
      else k.accepted ++ [(call, (c.perform call k.situation).1)] := by
  have hk : (c.extend k call).accepted = k.accepted ++
      [(call, (c.perform call k.situation).1)].filter fun r => !isRefused r.2 :=
    List.filter_append _ _
  rw [hk]
  cases h : isRefused (c.perform call k.situation).1 <;> simp [h]

/-- The result of a course changes with every accepted call. -/
theorem result?_extend (k : Course σ) (call : Call) :
    (c.extend k call).result? =
      if isRefused (c.perform call k.situation).1 then k.result?
      else some (c.perform call k.situation).1 := by
  rw [Course.result?, accepted_extend]
  split
  · rfl
  · rw [List.getLast?_append, List.getLast?_singleton]
    rfl

theorem told_extend (k : Course σ) (call : Call) :
    (c.extend k call).told =
      if isRefused (c.perform call k.situation).1 then k.told
      else k.told ++ call.outcome?.toList := by
  rw [Course.told, accepted_extend]
  split
  · rfl
  · rw [List.filterMap_append]
    cases call <;> rfl

end Controller

end LoginGate
