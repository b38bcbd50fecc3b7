import LoginGate.Dictionary
import LoginGate.Json.Expect
import LoginGate.Registry.Session

/-!
# The JSON form of sessions

A session is an object of five strings, or an array of them in order.
-/

namespace LoginGate.Session

open Json Json.Reader

/-- The names of the fields, in order. -/
def fieldNames : List String :=
  ["sessionID", "timestamp", "userAgent", "ipAddress", "serviceProvider"]

/-- The JSON form of a session. -/
def toJson (s : Session) : Value :=
  .object [("sessionID", .string s.id), ("timestamp", .string s.timestamp),
    ("userAgent", .string s.userAgent), ("ipAddress", .string s.ipAddress),
    ("serviceProvider", .string s.serviceProvider)]

/-- Reads one member of a session. -/
def fieldReader (read : Dictionary String String) (key : String) :
    Reader (Dictionary String String) := do
  if key ∈ fieldNames then
    match ← field key (read.get? key) string with
    | some v => return read.insert key v
    | none => return read
  else do
    unknownField
    return read

/-- Reads a session written with the names of its fields. -/
def namedFields (_room : Nat) : Reader Session := do
  let read ← members fieldReader .empty
  let get (name : String) : Reader String := required name (read.get? name)
  return { id := ← get "sessionID", timestamp := ← get "timestamp", userAgent := ← get "userAgent",
           ipAddress := ← get "ipAddress", serviceProvider := ← get "serviceProvider" }

/-- Reads a session written as an array of its fields. -/
def orderedFields (_room : Nat) : Reader Session := do
  let get (index : Nat) : Reader String := next index "struct ActiveSession with 5 elements" string
  return { id := ← get 0, timestamp := ← get 1, userAgent := ← get 2, ipAddress := ← get 3,
           serviceProvider := ← get 4 }

/-- Reads a session. -/
def reader : Reader Session := record levels "struct ActiveSession" namedFields orderedFields

/-- Reads a session from its JSON form. -/
def parse (text : String) : Except Json.Error Session := reader.run text

end LoginGate.Session
