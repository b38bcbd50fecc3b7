import LoginGate.Json.Value
import LoginGate.Program

/-!
# The description of the service

An OpenAPI document of the routes, their parameters and answers, and the shapes
of what they exchange.
-/

namespace LoginGate.Api

open Json

/-- An object of the document. -/
abbrev entry (name : String) (members : List (String × Value)) : String × Value :=
  (name, .object members)

/-- A member with a text. -/
def textEntry (name text : String) : String × Value := (name, .string text)

/-- A list of texts. -/
def texts (items : List String) : Value := .array (items.map .string)

/-! ### Shapes -/

/-- A reference to a shape by its name. -/
def shapeRef (name : String) : List (String × Value) :=
  [textEntry "$ref" ("#/components/schemas/" ++ name)]

/-- The shape of a text. -/
def textShape : List (String × Value) := [textEntry "type" "string"]

/-- The shape of an object with fields that must be there, and its fields. -/
def objectShape (about : List (String × Value)) (required : List String)
    (properties : List (String × Value)) : List (String × Value) :=
  [textEntry "type" "object"] ++ about ++
    [("required", texts required), entry "properties" properties]

/-- A JSON body of a shape. -/
def bodyOf (shape : String) : String × Value :=
  entry "content" [entry "application/json" [entry "schema" (shapeRef shape)]]

/-- The shapes that the service exchanges. -/
def shapes : List (String × Value) :=
  [entry "ActiveSession" (objectShape
      [textEntry "description" "One active session as reported by the registry."]
      ["sessionID", "timestamp", "userAgent", "ipAddress", "serviceProvider"]
      (["ipAddress", "serviceProvider", "sessionID", "timestamp", "userAgent"].map
        (entry · textShape))),
    entry "Health" (objectShape [] ["commit", "name", "version", "registry"]
      (["commit", "name", "registry", "version"].map (entry · textShape))),
    entry "SessionLimitRequest" (objectShape [] ["principal"]
      [entry "principal" textShape,
        entry "sessionLimit" [("type", texts ["string", "null"]),
          textEntry "description"
            "Positive integer as a string; the server default applies when absent."]]),
    entry "SessionLimitResponse" (objectShape [] ["principal", "withinLimit", "sessionLimit"]
      [entry "principal" textShape,
        entry "sessionLimit" [textEntry "type" "integer", textEntry "format" "int32",
          ("minimum", .number (.natural 0))],
        entry "withinLimit" [textEntry "type" "boolean"]]),
    entry "SessionList" (objectShape [] ["sessions"]
      [entry "sessions" [textEntry "type" "array", entry "items" (shapeRef "ActiveSession")]])]

/-! ### Routes -/

/-- A parameter in a path. -/
def pathParameter (name description : String) : Value :=
  .object [textEntry "name" name, textEntry "in" "path", textEntry "description" description,
    ("required", .bool true), entry "schema" textShape]

/-- An answer, with the shape of its body if it has one. -/
def answerEntry (code description : String) (shape : Option String) : String × Value :=
  entry code ([textEntry "description" description] ++ (shape.map bodyOf).toList)

/-- An operation: its group, its name, what it takes and what it answers. -/
def operation (tag id : String) (takes answers : List (String × Value)) : List (String × Value) :=
  [("tags", texts [tag]), textEntry "operationId" id] ++ takes ++ [entry "responses" answers]

/-- The routes of the service. -/
def paths : List (String × Value) :=
  [entry "/health" [entry "get" (operation "health" "health" []
      [answerEntry "200" "Session registry is reachable" (some "Health"),
        answerEntry "503" "Session registry is unreachable" (some "Health")])],
    entry "/v1/principals/\x7bprincipal\x7d/sessions" [entry "get"
      (operation "sessions" "list_sessions"
        [("parameters", .array
          [pathParameter "principal" "Principal identifier, optionally USERSTORE/user@tenant"])]
        [answerEntry "200" "Active sessions, newest first" (some "SessionList"),
          answerEntry "400" "Invalid principal" none,
          answerEntry "401" "Missing or invalid admin token" none,
          answerEntry "503" "Session registry unavailable" none])],
    entry "/v1/session-limit" [entry "post" (operation "sessions" "session_limit"
      [entry "requestBody" [bodyOf "SessionLimitRequest", ("required", .bool true)]]
      [answerEntry "200" "Session limit verdict" (some "SessionLimitResponse"),
        answerEntry "400" "Invalid principal or session limit" none,
        answerEntry "503" "Session registry unavailable" none])],
    entry "/v1/sessions/\x7bsession_id\x7d" [entry "delete"
      (operation "sessions" "terminate_session"
        [("parameters", .array [pathParameter "session_id" "Session identifier"])]
        [answerEntry "204" "Session terminated" none,
          answerEntry "401" "Missing or invalid admin token" none,
          answerEntry "404" "Unknown session" none,
          answerEntry "501" "Session registry is read-only" none,
          answerEntry "503" "Session registry unavailable" none])]]

/-- The whole document. -/
def document : Value :=
  .object [textEntry "openapi" "3.1.0",
    entry "info" [textEntry "title" productName,
      textEntry "description" "Session-limit policy gate for multi-step authentication flows",
      entry "contact" [textEntry "name" "Team Permesi", textEntry "email" "team@permesi.dev"],
      entry "license" [textEntry "name" "BSD-3-Clause", textEntry "identifier" "BSD-3-Clause"],
      textEntry "version" productVersion],
    entry "paths" paths,
    entry "components" [entry "schemas" shapes],
    ("tags", .array
      [.object [textEntry "name" "health", textEntry "description" "Service health"],
        .object [textEntry "name" "sessions",
          textEntry "description" "Session limit decisions and active sessions"]])]

end LoginGate.Api
