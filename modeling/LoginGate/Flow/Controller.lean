import LoginGate.Flow.Attempt
import LoginGate.Flow.Definition

/-!
# The controller of flows

The controller takes an attempt through a flow. It asks an executor to run each
step and then follows the continuation registered for the outcome. The gate is
such a continuation: it writes its attributes, evaluates the limit, and
schedules either the step that proceeds or the remediation before it.

Steps scheduled by a continuation come before all that wait. Without a
continuation the next waiting step is executed; if none waits, a declared step
is followed by the next declared one, and a scheduled step ends the attempt. An
attempt executes at most `maxSteps` steps.

The executor and the registry act on one state `σ`. Everything that happens is
an event; log lines and diagnostics are views of the events. A call of the
controller is a function: it takes the attempt and the state, and gives the
result with the situation it ends in.
-/

namespace LoginGate

/-- The most steps that an attempt executes. -/
def maxSteps : Nat := 64

/-! ### Executing steps -/

/-- How the execution of a step ended. -/
inductive StepStatus where
  /-- The step is over. -/
  | completed (outcome : Outcome)
  /-- The step waits for something outside; its outcome comes later. -/
  | suspended
deriving DecidableEq, Repr

/-- Why a step was not executed. -/
inductive StepError where
  | execution (reason : String)
deriving DecidableEq, Repr

/-- The error in words. -/
def StepError.message : StepError → String
  | .execution reason => "Step execution failed: " ++ reason

/-- What an executor answers. -/
structure StepReply (σ : Type) where
  /-- How the execution ended. -/
  result : Except StepError StepStatus
  /-- The attributes of the attempt afterwards. -/
  attributes : Attributes
  /-- The state afterwards. -/
  state : σ

/-- The means to execute steps on a state `σ`. A step sees its attempt, and may
    change the attempt's attributes and the state. -/
structure Executor (σ : Type) where
  /-- Executes a step of an attempt. -/
  execute : StepId → Attempt → σ → StepReply σ

/-! ### Results and events -/

/-- Why a call of the controller failed. -/
inductive FlowError where
  /-- The limit could not be evaluated after a step. -/
  | policy (step : StepId) (cause : PolicyError)
  /-- A step could not be executed. -/
  | step (step : StepId) (cause : StepError)
  /-- The flow makes the attempt fail after a step. -/
  | routed (step : StepId) (reason : String)
  /-- The gate was reached again. -/
  | alreadyEvaluated (step : StepId)
  /-- The attempt was started before. -/
  | alreadyStarted
  /-- The attempt does not wait for an outcome. -/
  | notSuspended
  /-- Another step was due after as many as an attempt executes. -/
  | stepLimitExceeded (step : StepId)
deriving DecidableEq, Repr

namespace FlowError

/-- The error in words. -/
def message : FlowError → String
  | .policy id cause =>
    "Session limit evaluation failed after step " ++ id.text ++ ": " ++ cause.message
  | .step id cause => "Step " ++ id.text ++ " could not be executed: " ++ cause.message
  | .routed id reason =>
    "Step " ++ id.text ++ " routed the attempt to failure: " ++ reason
  | .alreadyEvaluated id =>
    "Session limit was already evaluated in this attempt (step " ++ id.text ++ ")"
  | .alreadyStarted => "Attempt has already started"
  | .notSuspended => "Attempt is not waiting on a step"
  | .stepLimitExceeded id =>
    "Attempt exceeded " ++ Text.numeral maxSteps ++ " executed steps at step " ++ id.text

/-- The step that an error is about. -/
def step? : FlowError → Option StepId
  | .policy s _ | .step s _ | .routed s _ | .alreadyEvaluated s | .stepLimitExceeded s => some s
  | .alreadyStarted | .notSuspended => none

end FlowError

/-- The summary of an attempt that ended. -/
structure FlowReport where
  /-- The steps executed, in order. -/
  executed : List StepId
  /-- The outcome of the last one. -/
  lastOutcome : Outcome
deriving DecidableEq, Repr

/-- Whether the attempt ended in a login. -/
def FlowReport.isAuthenticated (r : FlowReport) : Bool := r.lastOutcome.isSuccess

/-- How far a call of the controller came. -/
inductive Progress where
  /-- The attempt waits for the outcome of a step. -/
  | suspended (step : StepId)
  /-- The attempt ended. -/
  | complete (report : FlowReport)
deriving DecidableEq, Repr

/-- Something that happened in a call of the controller. -/
inductive FlowEvent where
  /-- A step is about to be executed. -/
  | executing (step : StepId)
  /-- A step reported an outcome. -/
  | reported (step : StepId) (outcome : Outcome)
  /-- A step was suspended. -/
  | suspended (step : StepId)
  /-- The registry was asked for a count. -/
  | counted (reading : Reading)
  /-- The limit was evaluated. -/
  | decided (within : Bool)
  /-- The attempt failed. -/
  | failed (error : FlowError)

namespace FlowEvent

/-- The diagnostic about an event, if there is one. -/
def diagnostic? : FlowEvent → Option String
  | .decided within =>
    some ("Within session limit: " ++ if within then "true" else "false")
  | _ => none

/-- The log line about an event, if there is one. -/
def log? : FlowEvent → Option LogLine
  | .executing step => some ⟨.debug, "Executing step " ++ step.text⟩
  | .reported step outcome => some ⟨.debug, "Step " ++ step.text ++ " reported " ++ outcome.name⟩
  | .suspended step => some ⟨.debug, "Step " ++ step.text ++ " suspended"⟩
  | .counted reading => reading.log?
  | .decided _ => none
  | .failed error => some ⟨.error, "Authentication flow failed: " ++ error.message⟩

/-- The log line about an event where diagnostics are log lines too. -/
def logWithDiagnostics? (e : FlowEvent) : Option LogLine :=
  match e.diagnostic? with
  | some message => some ⟨.info, message⟩
  | none => e.log?

end FlowEvent

/-- An attempt in the midst of a call, with the state around it and what
    happened so far. -/
structure Situation (σ : Type) where
  /-- The attempt. -/
  attempt : Attempt
  /-- The state that executor and registry act on. -/
  state : σ
  /-- The events of the call, in order. -/
  events : List FlowEvent

namespace Situation

variable {σ : Type}

/-- The situation after one more event. -/
def note (s : Situation σ) (e : FlowEvent) : Situation σ := { s with events := s.events ++ [e] }

/-- The situation with another state of execution. -/
def withExecution (s : Situation σ) (f : Execution → Execution) : Situation σ :=
  { s with attempt := { s.attempt with execution := f s.attempt.execution } }

/-- The situation in which other steps wait. -/
def withPending (s : Situation σ) (pending : List Pending) : Situation σ :=
  s.withExecution fun e => { e with pending := pending }

/-- The situation in which steps were put before all that wait. -/
def schedule (s : Situation σ) (steps : List StepId) : Situation σ :=
  s.withPending (steps.map (⟨·, .scheduled⟩) ++ s.attempt.execution.pending)

/-- The situation in which a step is executed and others wait. -/
def take (s : Situation σ) (step : StepId) (rest : List Pending) : Situation σ :=
  ((s.withPending rest).note (.executing step)).withExecution
    fun e => { e with executed := e.executed ++ [step] }

/-- The situation after the executor replied. -/
def accept (s : Situation σ) (reply : StepReply σ) : Situation σ :=
  { s with attempt := { s.attempt with attributes := reply.attributes }, state := reply.state }

/-- The situation in which the attempt waits for the outcome of a step. -/
def suspend (s : Situation σ) (p : Pending) : Situation σ :=
  (s.note (.suspended p.step)).withExecution
    fun e => { e with state := .suspended p.step, suspendedOrigin := some p.origin }

/-- The situation in which the attempt waits no longer. -/
def wake (s : Situation σ) : Situation σ :=
  s.withExecution fun e => { e with suspendedOrigin := none }

/-- The situation after a step reported an outcome. -/
def report (s : Situation σ) (step : StepId) (outcome : Outcome) : Situation σ :=
  (s.note (.reported step outcome)).withExecution fun e => { e with lastOutcome := some outcome }

/-- The situation at a gate that wrote its attributes. -/
def enterGate (s : Situation σ) (gate : SessionLimitGate) : Situation σ :=
  { s with attempt := { s.attempt with
      attributes := s.attempt.attributes.insertAll gate.attributes.entries
      execution := { s.attempt.execution with evaluated := true } } }

/-- The situation after the limit was evaluated. -/
def read (s : Situation σ) (evaluation : Evaluation σ) : Situation σ :=
  { s with
    state := evaluation.state
    events := s.events ++ evaluation.reading.toList.map .counted }

/-- The situation in which the attempt ended with an outcome. -/
def finish (s : Situation σ) (last : Outcome) : Situation σ :=
  s.withExecution fun e => { e with state := .complete last }

/-- The situation in which an error ended the attempt. -/
def fail (s : Situation σ) (error : FlowError) : Situation σ :=
  (s.note (.failed error)).withExecution fun e => { e with pending := [], state := .failed }

end Situation

/-! ### The controller -/

/-- What takes attempts through a flow. -/
structure Controller (σ : Type) where
  /-- The flow. -/
  definition : FlowDefinition
  /-- What executes the steps. -/
  executor : Executor σ
  /-- Where sessions are counted. -/
  registry : Registry σ

namespace Controller

variable {σ : Type} (c : Controller σ)

/-- Passes the gate after a step: the steps that follow. The attributes of the
    gate are written even if the evaluation then fails. -/
def passGate (step : StepId) (gate : SessionLimitGate) (s : Situation σ) :
    Except FlowError (List StepId) × Situation σ :=
  if s.attempt.execution.evaluated then (.error (.alreadyEvaluated step), s)
  else
    let s := s.enterGate gate
    let evaluation := c.registry.evaluateAttempt s.attempt s.state
    let s := s.read evaluation
    match evaluation.result with
    | .error cause => (.error (.policy step cause), s)
    | .ok verdict => (.ok (gate.steps verdict.isWithin), s.note (.decided verdict.isWithin))

/-- Follows the outcome of a step. -/
def onOutcome (step : StepId) (origin : Origin) (outcome : Outcome) (s : Situation σ) :
    Except FlowError Unit × Situation σ :=
  let s := s.report step outcome
  match c.definition.continuation? step outcome with
  | none =>
    if origin = .declared ∧ s.attempt.execution.pending = [] then
      match c.definition.nextDeclared? step with
      | some next => (.ok (), s.withPending [⟨next, .declared⟩])
      | none => (.ok (), s)
    else (.ok (), s)
  | some (.execute steps) => (.ok (), s.schedule steps)
  | some (.sessionLimitGate gate) =>
    match c.passGate step gate s with
    | (.ok steps, s) => (.ok (), s.schedule steps)
    | (.error e, s) => (.error e, s)
  | some (.fail reason) =>
    (.error (.routed step (reason.getD ("outcome " ++ outcome.name))), s)

/-- Ends an attempt for which no step waits. -/
def conclude (s : Situation σ) : Except FlowError Progress × Situation σ :=
  let last := s.attempt.execution.lastOutcome.getD .failure
  (.ok (.complete ⟨s.attempt.execution.executed, last⟩), s.finish last)

/-- Executes waiting steps as long as the attempt may execute so many more. -/
def run : Nat → Situation σ → Except FlowError Progress × Situation σ
  | budget, s =>
    match s.attempt.execution.pending with
    | [] => conclude s
    | ⟨step, origin⟩ :: rest =>
      match budget with
      | 0 => (.error (.stepLimitExceeded step), s.withPending rest)
      | budget + 1 =>
        let s := s.take step rest
        let reply := c.executor.execute step s.attempt s.state
        let s := s.accept reply
        match reply.result with
        | .error cause => (.error (.step step cause), s)
        | .ok .suspended => (.ok (.suspended step), s.suspend ⟨step, origin⟩)
        | .ok (.completed outcome) =>
          match c.onOutcome step origin outcome s with
          | (.error e, s) => (.error e, s)
          | (.ok (), s) => run budget s

/-- Runs an attempt within the steps that it has left. -/
def proceed (s : Situation σ) : Except FlowError Progress × Situation σ :=
  c.run (maxSteps - s.attempt.execution.executed.length) s

/-- Ends the attempt if a call failed. -/
def settle (r : Except FlowError Progress × Situation σ) :
    Except FlowError Progress × Situation σ :=
  match r with
  | (.ok p, s) => (.ok p, s)
  | (.error e, s) => (.error e, s.fail e)

/-- Starts the attempt of a situation at the entry of the flow. -/
def startIn (s : Situation σ) : Except FlowError Progress × Situation σ :=
  if s.attempt.execution.state = .notStarted then
    settle (c.proceed
      (s.withPending (s.attempt.execution.pending ++ [⟨c.definition.entry, .declared⟩])))
  else (.error .alreadyStarted, s)

/-- Goes on with the attempt of a situation, with the outcome that it waited
    for. -/
def resumeIn (outcome : Outcome) (s : Situation σ) : Except FlowError Progress × Situation σ :=
  match s.attempt.execution.state with
  | .suspended step =>
    let origin := s.attempt.execution.suspendedOrigin.getD .declared
    settle <| match c.onOutcome step origin outcome s.wake with
      | (.error e, s) => (.error e, s)
      | (.ok (), s) => c.proceed s
  | _ => (.error .notSuspended, s)

/-- Starts an attempt. -/
def start (attempt : Attempt) (state : σ) : Except FlowError Progress × Situation σ :=
  c.startIn ⟨attempt, state, []⟩

/-- Goes on with an attempt, with the outcome that it waited for. -/
def resume (attempt : Attempt) (outcome : Outcome) (state : σ) :
    Except FlowError Progress × Situation σ :=
  c.resumeIn outcome ⟨attempt, state, []⟩

end Controller

end LoginGate
