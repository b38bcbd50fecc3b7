/-!
# Steps and their outcomes

A step of a login is known by its id only; what it does is the business of
whoever executes it. It reports an outcome: success, failure, or any other
name that the flow gives a meaning to.
-/

namespace LoginGate

/-- The id of a step. -/
structure StepId where
  /-- The text of the id. -/
  text : String
deriving DecidableEq, Repr

/-- What a step reports at its end. -/
inductive Outcome where
  | success
  | failure
  /-- An outcome with a meaning in the flow only. -/
  | other (name : String)
deriving DecidableEq, Repr

namespace Outcome

/-- The outcome with a name. -/
def ofName (name : String) : Outcome :=
  if name = "success" then .success else if name = "failure" then .failure else .other name

/-- The name of an outcome. -/
def name : Outcome → String
  | .success => "success"
  | .failure => "failure"
  | .other name => name

/-- Whether the outcome is success. -/
def isSuccess : Outcome → Bool
  | .success => true
  | _ => false

@[simp] theorem name_ofName (name : String) : (ofName name).name = name := by
  unfold ofName
  split
  · next h => exact h.symm
  · split
    · next h => exact h.symm
    · rfl

end Outcome

end LoginGate
