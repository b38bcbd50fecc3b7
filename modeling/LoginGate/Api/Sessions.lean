import LoginGate.Api.Access
import LoginGate.Json.Printer
import LoginGate.Registry.Format
import LoginGate.Text.Percent

/-!
# Sessions of a principal

Listing and closing sessions, for requests that carry the token of the
administration. Principals and ids of sessions stand in the path of a request,
percent-encoded; one whose bytes are no text is refused before anything else is
looked at.
-/

namespace LoginGate.Api

open Http

variable {σ : Type}

/-- The complaint about a part of the path that is no text. -/
def notText (name : String) : Response :=
  .plain .badRequest ("Invalid URL: Invalid UTF-8 in \x60" ++ name ++ "\x60")

/-- The JSON form of a list of sessions. -/
def sessionList (sessions : List Session) : Json.Value :=
  .object [("sessions", .array (sessions.map Session.toJson))]

/-- Answers a request for the sessions of a principal. -/
def listSessions (api : Api σ) (headers : List Header) (principal : String) (s : σ) :
    Response × σ :=
  match Text.percentDecoded? principal with
  | none => (notText "principal", s)
  | some text =>
    if api.authorizes headers then
      match Principal.ofText text with
      | .error e => (.plain .badRequest e.message, s)
      | .ok principal =>
        match api.registry.list principal s with
        | (.ok sessions, s) => (.json .ok (sessionList sessions).render, s)
        | (.error _, s) => (.empty .serviceUnavailable, s)
    else (.empty .unauthorized, s)

/-- Answers a request to close a session. -/
def closeSession (api : Api σ) (headers : List Header) (id : String) (s : σ) : Response × σ :=
  match Text.percentDecoded? id with
  | none => (notText "session_id", s)
  | some id =>
    if api.authorizes headers then
      match api.terminator with
      | none => (.empty .notImplemented, s)
      | some terminator =>
        match terminator.terminate id s with
        | (.ok true, s) => (.empty .noContent, s)
        | (.ok false, s) => (.empty .notFound, s)
        | (.error _, s) => (.empty .serviceUnavailable, s)
    else (.empty .unauthorized, s)

end LoginGate.Api
