import LoginGate.Api.Access
import LoginGate.Http.MediaType
import LoginGate.Json.Expect
import LoginGate.Json.Printer

/-!
# Decisions

The question whether a principal is within its session limit. The limit is a
setting of the question, and the one of the service if the question has none.
-/

namespace LoginGate.Api

open Http Json Json.Reader

/-- A question to the service. -/
structure Question where
  /-- The text of the principal. -/
  principal : String
  /-- The setting of the limit, if one is given. -/
  sessionLimit : Option String
deriving DecidableEq, Repr

namespace Question

/-- The fields of a question as far as they are read. -/
structure Fields where
  /-- The text of the principal. -/
  principal : Option String
  /-- The setting of the limit, or nothing for one that is `null`. -/
  sessionLimit : Option (Option String)

/-- Reads one member of a question. -/
def fieldReader (read : Fields) (key : String) : Reader Fields := do
  match key with
  | "principal" => return { read with principal := ← field key read.principal string }
  | "sessionLimit" =>
    return { read with sessionLimit := ← field key read.sessionLimit (optional string) }
  | _ => do
    unknownField
    return read

/-- Reads a question written with the names of its fields. -/
def namedFields (_room : Nat) : Reader Question := do
  let read ← members fieldReader ⟨none, none⟩
  return ⟨← required "principal" read.principal, read.sessionLimit.getD none⟩

/-- Reads a question written as an array of its fields. -/
def orderedFields (_room : Nat) : Reader Question := do
  let principal ← next 0 "struct SessionLimitRequest with 2 elements" string
  if ← nextItem false then return ⟨principal, ← optional string⟩ else return ⟨principal, none⟩

/-- Reads a question. -/
def reader : Reader Question := record levels "struct SessionLimitRequest" namedFields orderedFields

/-- Reads a question at the beginning of a body; what follows it does not
    matter, nor do the bytes in the strings that are passed over. -/
def parse? (body : Body) : Option Question :=
  (reader (Cursor.first (Text.utf8Symbols body))).1.toOption

end Question

/-- The longest body that is read, in bytes. -/
def bodyLimit : Nat := 2 * 1024 * 1024

/-- The question that a request asks, if it is a JSON text of one. -/
def Question.ofRequest? (request : Request) : Option Question := do
  let mediaType ← (Header.firstText? "content-type" request.headers).bind MediaType.parse?
  if mediaType.isJson ∧ request.body.length ≤ bodyLimit then Question.parse? request.body
  else none

/-- The JSON form of a decision. -/
def decision (principal : Principal) (limit : SessionLimit) (within : Bool) : Value :=
  .object [("principal", .string principal.text), ("withinLimit", .bool within),
    ("sessionLimit", .number (.natural limit.value))]

variable {σ : Type}

/-- Answers a question. Nothing is counted for one that makes no sense. -/
def answerQuestion (api : Api σ) (question : Question) (s : σ) : Response × σ :=
  match Principal.ofText question.principal with
  | .error e => (.plain .badRequest e.message, s)
  | .ok principal =>
    let setting := question.sessionLimit.getD api.defaultLimit.text
    match SessionLimit.parse (some setting) with
    | .error e => (.plain .badRequest (PolicyError.invalidLimit e).message, s)
    | .ok limit =>
      let attributes := Dictionary.ofList [(limitAttribute, setting)]
      let evaluation := api.registry.evaluate principal attributes s
      match evaluation.isWithin with
      | .ok within => (.json .ok (decision principal limit within).render, evaluation.state)
      | .error (.invalidLimit e) => (.plain .badRequest e.reason, evaluation.state)
      | .error (.registry _) => (.empty .serviceUnavailable, evaluation.state)

/-- Answers a request that carries a question. -/
def answerPost (api : Api σ) (request : Request) (s : σ) : Response × σ :=
  match Question.ofRequest? request with
  | none => (.plain .badRequest "Missing payload", s)
  | some question => api.answerQuestion question s

end LoginGate.Api
