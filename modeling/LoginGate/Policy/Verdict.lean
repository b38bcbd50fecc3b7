import LoginGate.Dictionary
import LoginGate.Policy.Limit
import LoginGate.Registry.Session

/-!
# Verdicts

The policy compares how many sessions a principal holds with the limit. The
check comes before the new session is opened, so one place must be left.
-/

namespace LoginGate

/-- Named settings and results that travel with a login. -/
abbrev Attributes := Dictionary String String

/-- What the policy decides. -/
inductive Verdict where
  | withinLimit
  | overLimit
deriving DecidableEq, Repr

/-- The verdict on a principal that holds so many sessions. -/
def Verdict.ofCount (sessions : Nat) (limit : SessionLimit) : Verdict :=
  if sessions < limit.value then .withinLimit else .overLimit

/-- Whether the login may go on as it is. -/
def Verdict.isWithin : Verdict → Bool
  | .withinLimit => true
  | .overLimit => false

/-- Why the policy comes to no verdict. -/
inductive PolicyError where
  /-- The setting is no limit. -/
  | invalidLimit (cause : LimitError)
  /-- The sessions cannot be counted. -/
  | registry (cause : RegistryError)
deriving DecidableEq, Repr

/-- The error in words. -/
def PolicyError.message : PolicyError → String
  | .invalidLimit cause => "Invalid session limit configuration: " ++ cause.reason
  | .registry cause => cause.message

/-- The attributes that carry a limit. -/
def SessionLimit.attributes (limit : SessionLimit) : Attributes :=
  Dictionary.ofList [(limitAttribute, limit.text)]

@[simp] theorem SessionLimit.get?_attributes (limit : SessionLimit) :
    limit.attributes.get? limitAttribute = some limit.text := by
  simp [attributes, Dictionary.ofList, Dictionary.insertAll]

/-- Writes a limit into attributes. -/
def SessionLimit.applyTo (limit : SessionLimit) (attributes : Attributes) : Attributes :=
  attributes.insert limitAttribute limit.text

end LoginGate
