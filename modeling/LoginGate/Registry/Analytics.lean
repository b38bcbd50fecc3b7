import LoginGate.Http.Charset
import LoginGate.Http.Exchange
import LoginGate.Json.Printer
import LoginGate.Json.Reader
import LoginGate.Program
import LoginGate.Registry.Query
import LoginGate.Text.Numeral
import LoginGate.Text.Quoted

/-!
# The registry of the analytics service

Open sessions are rows of a table of an analytics service. Two of its addresses
are asked: one counts the rows that a query selects and answers with a numeral,
the other returns the rows as an array of records.

Whatever goes wrong makes the registry unavailable: no answer, any status other
than 200, a body that breaks off, and a body that is not what it should be.
-/

namespace LoginGate

/-- How the analytics service is asked. -/
structure Analytics where
  /-- Where sessions are counted. -/
  countUrl : Url
  /-- Where sessions are listed. -/
  searchUrl : Url
  /-- The name of the user that asks. -/
  username : String
  /-- The password of that user. -/
  password : String
  /-- How long to wait for an answer, in milliseconds. -/
  timeout : Nat

namespace Analytics

/-- The table that holds the open sessions. -/
def table : String := "ORG_WSO2_IS_ANALYTICS_STREAM_ACTIVESESSIONS"

/-- How long to wait if nothing else is said, in milliseconds. -/
def defaultTimeout : Nat := 5000

/-- The setup on one line, without the password. -/
def summary (a : Analytics) : String :=
  "AnalyticsConfig \x7b count_url: " ++ Text.quoted a.countUrl.text ++ ", search_url: " ++
    Text.quoted a.searchUrl.text ++ ", username: " ++ Text.quoted a.username ++
    ", password: \"***\", timeout: " ++ Text.span a.timeout ++ " \x7d"

/-! ### What is asked -/

/-- What is sent to count the sessions of a principal. -/
def countQuestion (p : Principal) : Json.Value :=
  .object [("query", .string (sessionQuery p.qualified)), ("tableName", .string table)]

/-- What is sent to list the sessions of a principal. -/
def listQuestion (p : Principal) : Json.Value :=
  .object [("count", .number (.natural sessionListLimit)),
    ("query", .string (sessionQuery p.qualified)), ("start", .number (.natural 0)),
    ("tableName", .string table)]

/-- The header that names the program. -/
def agentHeader : Http.Header := .ofText "user-agent" productAgent

/-- The headers of a question. -/
def headers (a : Analytics) : List Http.Header :=
  [Http.basicAuthorization a.username a.password, .ofText "content-type" "application/json",
    agentHeader]

/-! ### What is answered -/

/-- The text of the body, if there is an answer with one. -/
def answerText [Http.Charsets] (url : Url) : Except Http.InquiryError Http.Answer →
    Except RegistryError String
  | .error _ => .error (.unavailable ("request to " ++ url.text ++ " failed"))
  | .ok answer =>
    if answer.status ≠ 200 then
      .error (.unavailable (url.text ++ " responded with " ++ Http.statusText answer.status))
    else
      match answer.body with
      | some bytes => .ok (Http.bodyText answer.headers bytes)
      | none => .error (.unavailable ("unreadable response from " ++ url.text))

/-- The greatest count. -/
def countBound : Nat := Word.size64 - 1

/-- The count that a body gives: a numeral, with blanks around it. -/
def readCount (body : String) : Except RegistryError Nat :=
  match Text.unsignedUpTo? countBound (Text.trim body.toList) with
  | some n => .ok n
  | none => .error (.unavailable "invalid session count")

/-- The sessions that a body gives: an array of records, none of them bad. -/
def readSessions (body : String) : Except RegistryError (List Session) :=
  match (Json.Reader.array Json.Reader.levels Json.Reader.value).run body with
  | .error _ => .error (.unavailable "invalid session records")
  | .ok records => records.mapM Session.ofRecord

/-! ### The registry -/

variable {σ : Type} [Http.Charsets]

/-- Sends a question to a URL and reads the body of the answer. -/
def ask {α : Type} (a : Analytics) (transport : Http.Transport σ) (url : Url)
    (question : Json.Value) (read : String → Except RegistryError α) (s : σ) :
    Except RegistryError α × σ :=
  let (answer, s) := Http.inquire transport .post url a.headers question.render s
  ((answerText url answer).bind read, s)

/-- The registry of an analytics service at the other end of a transport. Any
    answer at all shows that the service is reached. -/
def registry (a : Analytics) (transport : Http.Transport σ) : Registry σ where
  count p := a.ask transport a.countUrl (countQuestion p) readCount
  list p := a.ask transport a.searchUrl (listQuestion p) readSessions
  ping s :=
    match Http.inquire transport .get a.countUrl [agentHeader] "" s with
    | (.ok _, s) => (.reached, s)
    | (.error e, s) => (.failed (.unavailable e.message), s)

end Analytics

end LoginGate
