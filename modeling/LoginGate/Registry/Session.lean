import LoginGate.Principal

/-!
# Sessions and their registry

A registry is a store of the sessions that are open. It is asked how many
sessions a principal holds, to list them, and whether it can be reached at all;
closing a session is the business of a terminator, which a registry that can
only be read does not have. Both act on a state `σ`, of which the store may be
a part only.
-/

namespace LoginGate

/-- The most sessions that a listing holds. -/
def sessionListLimit : Nat := 100

/-- An open session. -/
structure Session where
  /-- What identifies the session. -/
  id : String
  /-- When it was opened. -/
  timestamp : String
  /-- The program that it was opened with. -/
  userAgent : String
  /-- The address that it was opened from. -/
  ipAddress : String
  /-- The service that it was opened for. -/
  serviceProvider : String
deriving DecidableEq, Repr

/-- Why a registry has no answer. -/
inductive RegistryError where
  /-- The registry cannot be reached or does not answer as it should. -/
  | unavailable (reason : String)
deriving DecidableEq, Repr

/-- The error in words. -/
def RegistryError.message : RegistryError → String
  | .unavailable reason => "Session registry unavailable: " ++ reason

/-- What a probe of a registry finds. -/
inductive Reachability where
  /-- The registry answers. -/
  | reached
  /-- The registry cannot be reached. -/
  | failed (error : RegistryError)
  /-- The registry does not answer in time. -/
  | silent
deriving DecidableEq, Repr

/-- A session registry on a state `σ`. -/
structure Registry (σ : Type) where
  /-- How many sessions a principal holds. -/
  count : Principal → σ → Except RegistryError Nat × σ
  /-- The sessions that a principal holds, the newest first. -/
  list : Principal → σ → Except RegistryError (List Session) × σ
  /-- Whether the registry answers. -/
  ping : σ → Reachability × σ

/-- The means to close sessions in a state `σ`. -/
structure Terminator (σ : Type) where
  /-- Closes the session with an id, and tells whether there was one. -/
  terminate : String → σ → Except RegistryError Bool × σ

end LoginGate
