import LoginGate.Flow.Step
import LoginGate.Policy.Evaluation

/-!
# Login attempts

An attempt is one login of one principal. It carries attributes, which steps
and the gate may change, and the state of its execution, which is the business
of the controller alone. Steps that wait to be executed stand in a queue, each
with how it got there: declared steps follow one another in the order of the
definition, scheduled ones were placed by a continuation.
-/

namespace LoginGate

/-- Where an attempt stands. -/
inductive FlowState where
  | notStarted
  /-- The attempt waits for the outcome of a step. -/
  | suspended (step : StepId)
  /-- The attempt ended with the outcome of its last step. -/
  | complete (lastOutcome : Outcome)
  /-- An error ended the attempt. -/
  | failed
deriving DecidableEq, Repr

/-- How a step came to be executed. -/
inductive Origin where
  /-- It is the entry, or follows in the order of declarations. -/
  | declared
  /-- A continuation placed it. -/
  | scheduled
deriving DecidableEq, Repr

/-- A step that waits to be executed. -/
structure Pending where
  /-- The step. -/
  step : StepId
  /-- How it came to wait. -/
  origin : Origin
deriving DecidableEq, Repr

/-- The state of the execution of an attempt. -/
structure Execution where
  /-- The steps executed so far, in order. -/
  executed : List StepId := []
  /-- The steps that wait, the next one first. -/
  pending : List Pending := []
  /-- How the step that the attempt waits for came to be executed. -/
  suspendedOrigin : Option Origin := none
  /-- The outcome that was reported last. -/
  lastOutcome : Option Outcome := none
  /-- Whether the gate was visited. -/
  evaluated : Bool := false
  /-- Where the attempt stands. -/
  state : FlowState := .notStarted
deriving DecidableEq, Repr

/-- A login of a principal. -/
structure Attempt where
  /-- Who logs in. -/
  principal : Principal
  /-- The settings and results that travel with the login. -/
  attributes : Attributes
  /-- The state of the execution. -/
  execution : Execution
deriving DecidableEq

namespace Attempt

/-- An attempt that is not started. -/
def new (principal : Principal) (attributes : Attributes := .empty) : Attempt :=
  ⟨principal, attributes, {}⟩

/-- The value of an attribute. -/
def attribute? (a : Attempt) (key : String) : Option String := a.attributes.get? key

/-- The attempt with another value of an attribute. -/
def setAttribute (a : Attempt) (key value : String) : Attempt :=
  { a with attributes := a.attributes.insert key value }

end Attempt

/-- What evaluating a registry says about an attempt, by the limit among its
    attributes. -/
def Registry.evaluateAttempt {σ : Type} (r : Registry σ) (a : Attempt) (s : σ) : Evaluation σ :=
  r.evaluate a.principal a.attributes s

end LoginGate
