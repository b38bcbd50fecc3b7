import LoginGate.Api.Decision
import LoginGate.Api.Document
import LoginGate.Api.Health
import LoginGate.Api.Sessions

/-!
# Answering requests

Finding what a request asks for and completing the response with what every
response carries: an id that the request may choose, leave for scripts of any
origin to read it, and the length of the body. Paths are compared as they are
written: nothing is normalised, and the case of letters matters.
-/

namespace LoginGate.Api

open Http

/-- What a path leads to. -/
inductive Route where
  /-- The health of the service. -/
  | health
  /-- Decisions about session limits. -/
  | sessionLimit
  /-- The sessions of a principal, given as it is written in the path. -/
  | sessions (principal : String)
  /-- A session, given by its id as it is written in the path. -/
  | session (id : String)
  /-- The description of the service. -/
  | document
  /-- The old place of the pages that show the description. -/
  | pages
  /-- One of the pages that show the description, none of which is held here. -/
  | page
deriving DecidableEq, Repr

/-- What a path leads to, if anything. -/
def Route.ofPath? (path : List Char) : Option Route :=
  match (Text.pieces '/' path).map String.ofList with
  | ["", "health"] => some .health
  | ["", "v1", "session-limit"] => some .sessionLimit
  | ["", "v1", "principals", principal, "sessions"] => some (.sessions principal)
  | ["", "v1", "sessions", id] => if id.isEmpty then none else some (.session id)
  | ["", "api-docs", "openapi.json"] => some .document
  | ["", "swagger-ui"] => some .pages
  | "" :: "swagger-ui" :: _ => some .page
  | _ => none

/-- The methods that a route admits. -/
def Route.methods : Route → List Method
  | .health => [.get, .head, .options]
  | .sessionLimit => [.post]
  | .session _ => [.delete]
  | .sessions _ | .document | .pages | .page => [.get, .head]

variable {σ : Type}

/-- Answers a request at a route that admits its method. -/
def answerAt (api : Api σ) (request : Request) (s : σ) : Route → Response × σ
  | .health => api.health request.method s
  | .sessionLimit => api.answerPost request s
  | .sessions principal => api.listSessions request.headers principal s
  | .session id => api.closeSession request.headers id s
  | .document => (.json .ok document.render, s)
  | .pages => ((Response.empty .seeOther).withHeader "location" "/swagger-ui/", s)
  | .page => (.empty .notFound, s)

/-- Answers a request that is no question about what is admitted. -/
def answer (api : Api σ) (request : Request) (s : σ) : Response × σ :=
  match Route.ofPath? request.path with
  | none => (.empty .notFound, s)
  | some route =>
    if request.method ∈ route.methods then api.answerAt request s route
    else
      let allowed := ",".intercalate (route.methods.map Method.name)
      ((Response.empty .methodNotAllowed).withHeader "allow" allowed, s)

/-- The response to every question about what is admitted. -/
def preflight : Response :=
  (Response.empty .ok).withHeader "access-control-allow-methods" "GET,POST"

/-- The response with what every response carries, given the id of the request.
    A `HEAD` gets the length of the body and not the body itself. -/
def completed (method : Method) (id : List UInt8) (response : Response) : Response :=
  let length := Text.numeral response.body.utf8ByteSize
  let response := response.withHeader "content-length" length
    |>.withHeader "access-control-allow-origin" "*"
    |>.withHeader "vary" "origin, access-control-request-method, access-control-request-headers"
  { response with
    headers := response.headers ++ [⟨"x-request-id", id⟩]
    body := if method = .head then "" else response.body }

/-- Answers a request, given an id for one that does not bring its own. -/
def respond (api : Api σ) (freshId : String) (request : Request) (s : σ) : Response × σ :=
  let id := (Header.first? "x-request-id" request.headers).getD (Text.utf8 freshId)
  let (response, s) := if request.method = .options then (preflight, s) else api.answer request s
  (completed request.method id response, s)

end LoginGate.Api
