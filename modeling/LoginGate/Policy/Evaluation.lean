import LoginGate.Policy.Verdict
import LoginGate.Program

/-!
# Evaluating the policy

An evaluation takes the limit from the attributes that it is given, asks the
registry for a fresh count, and compares the two. A setting that is no limit is
refused before the registry is asked. Nothing is remembered from one evaluation
to the next.
-/

namespace LoginGate

/-- A count that a registry was asked for in an evaluation. -/
structure Reading where
  /-- Whose sessions were counted. -/
  principal : Principal
  /-- The limit that the count is for. -/
  limit : SessionLimit
  /-- What the registry answered. -/
  answer : Except RegistryError Nat

/-- The log line about a count, if there is one. -/
def Reading.log? (r : Reading) : Option LogLine :=
  match r.answer with
  | .ok count =>
    some ⟨.debug, "Active session count: " ++ Text.numeral count ++
      " and session limit: " ++ r.limit.text⟩
  | .error _ => none

/-- The end of an evaluation on a state `σ`. -/
structure Evaluation (σ : Type) where
  /-- The verdict. -/
  result : Except PolicyError Verdict
  /-- The count that was asked for, if the limit allowed it. -/
  reading : Option Reading
  /-- The state after the registry was asked. -/
  state : σ

namespace Registry

variable {σ : Type}

/-- Compares a principal's sessions with a limit. -/
def evaluateLimit (r : Registry σ) (principal : Principal) (limit : SessionLimit) (s : σ) :
    Evaluation σ :=
  match r.count principal s with
  | (.ok count, s) => ⟨.ok (.ofCount count limit), some ⟨principal, limit, .ok count⟩, s⟩
  | (.error e, s) => ⟨.error (.registry e), some ⟨principal, limit, .error e⟩, s⟩

/-- A comparison asks for one count, and passes on why there is none. -/
theorem evaluateLimit_eq (r : Registry σ) (principal : Principal) (limit : SessionLimit) (s : σ) :
    r.evaluateLimit principal limit s =
      ⟨match (r.count principal s).1 with
        | .ok count => .ok (.ofCount count limit)
        | .error e => .error (.registry e),
      some ⟨principal, limit, (r.count principal s).1⟩, (r.count principal s).2⟩ := by
  rw [evaluateLimit]
  rcases r.count principal s with ⟨e | count, t⟩
  · rfl
  · rfl

/-- Compares a principal's sessions with the limit that a setting gives. -/
def evaluateSetting (r : Registry σ) (principal : Principal) (setting : Option String) (s : σ) :
    Evaluation σ :=
  match SessionLimit.parse setting with
  | .ok limit => r.evaluateLimit principal limit s
  | .error e => ⟨.error (.invalidLimit e), none, s⟩

/-- Compares a principal's sessions with the limit in attributes. -/
def evaluate (r : Registry σ) (principal : Principal) (attributes : Attributes) (s : σ) :
    Evaluation σ :=
  r.evaluateSetting principal (attributes.get? limitAttribute) s

end Registry

/-- Whether the principal is within the limit, for callers that do not need
    the verdict itself. -/
def Evaluation.isWithin {σ : Type} (e : Evaluation σ) : Except PolicyError Bool :=
  e.result.map Verdict.isWithin

end LoginGate
