import LoginGate.Api.Access
import LoginGate.Json.Printer
import LoginGate.Program

/-!
# Health

Whether the service can do its work, which it can as long as its registry
answers in time.
-/

namespace LoginGate.Api

open Http

variable {σ : Type}

/-- The JSON form of a report on the health of the service. -/
def healthReport (healthy : Bool) : Json.Value :=
  .object [("commit", .string productCommit), ("name", .string productName),
    ("version", .string productVersion),
    ("registry", .string (if healthy then "ok" else "error"))]

/-- The commit as it stands in the name of the program: its short form, and
    nothing for a commit that is as short already. -/
def commitLabel (commit : String) : String :=
  if shortCommitLength < commit.utf8ByteSize then (shortCommit? commit).getD "" else ""

/-- The header that names the program. -/
def productLabel : String :=
  productName ++ ":" ++ productVersion ++ ":" ++ commitLabel productCommit

/-- Answers a question about the health of the service. Only a `GET` gets the
    report itself. -/
def health (api : Api σ) (method : Method) (s : σ) : Response × σ :=
  let (reachability, s) := api.registry.ping s
  let healthy := reachability == .reached
  let status : Status := if healthy then .ok else .serviceUnavailable
  let response : Response :=
    if method = .get then .json status (healthReport healthy).render else .empty status
  (response.withHeader "x-app" productLabel, s)

end LoginGate.Api
