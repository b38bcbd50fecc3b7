import LoginGate.Api.Access
import LoginGate.Program
import LoginGate.Registry.Database
import LoginGate.Service.Setup

/-!
# Starting the service

What is said when the service starts, and what it takes for it to start. The
message shows the setup and none of its secrets: of the analytics service only
the address that counts, of the token only whether there is one, and the
address of the database without its password.
-/

namespace LoginGate

/-! ### The message -/

/-- What stands in the place of a password. -/
def redaction : List Char := "REDACTED".toList

/-- The address of a database without its password. -/
def redactDsn (dsn : String) : String :=
  match Url.parse dsn with
  | .ok u => (u.replacePassword redaction).text
  | .error _ => "invalid-dsn"

namespace Setup

/-- The store in words. -/
def backendText (setup : Setup) : String :=
  match setup.backend with
  | .database dsn => "postgres " ++ redactDsn dsn
  | .analytics service => "analytics " ++ service.countUrl.text

/-- What is said about the setup: pairs of a name and a text. -/
def entries (setup : Setup) : List (String × String) :=
  [("listen", "tcp:" ++ Text.numeral setup.port),
    ("session_limit", setup.sessionLimit.text),
    ("registry", setup.backendText),
    ("admin_routes", if setup.adminToken.isSome then "enabled" else "disabled")]

/-- An entry on its line, with blanks that fill its name to a width. -/
def entryLine (width : Nat) (entry : String × String) : String :=
  "\n  " ++ entry.1 ++ ":" ++ String.ofList (List.replicate (width - entry.1.length) ' ') ++ " " ++
    entry.2

/-- The short form of the commit that the program was built from. -/
def builtFrom : String := (shortCommit? productCommit).getD productCommit

/-- What is said when the service starts. -/
def startupMessage (setup : Setup) : String :=
  let width := (setup.entries.map fun e => e.1.length).foldl max 0
  productName ++ " " ++ productVersion ++ " - " ++ builtFrom ++ "\n\nStartup configuration:" ++
    String.join (setup.entries.map (entryLine width))

/-- The log line that the service starts with. -/
def startupLine (setup : Setup) : LogLine := ⟨.info, setup.startupMessage⟩

/-- The log line of a service that listens. -/
def listeningLine (setup : Setup) : LogLine :=
  ⟨.info, "Listening on [::]:" ++ Text.numeral setup.port⟩

end Setup

/-! ### Starting -/

/-- What the service reaches its stores through. -/
structure Surroundings (σ : Type) where
  /-- The way to the analytics service. -/
  transport : Http.Transport σ
  /-- Connects to the database at an address, if there is one. -/
  connect : String → σ → Option (Database σ) × σ

/-- Why the service does not start. -/
inductive StartError where
  /-- There is no connection to the database. -/
  | noDatabase
deriving DecidableEq, Repr

/-- The error in words. -/
def StartError.message : StartError → String
  | .noDatabase => "Failed to connect to database"

variable {σ : Type} [Http.Charsets]

/-- The service of a setup. The sessions of an analytics service can only be
    read. -/
def Setup.api (setup : Setup) (around : Surroundings σ) (s : σ) :
    Except StartError (Api σ) × σ :=
  match setup.backend with
  | .analytics service =>
    (.ok ⟨service.registry around.transport, none, setup.sessionLimit, setup.adminToken⟩, s)
  | .database dsn =>
    match around.connect dsn s with
    | (some d, s) => (.ok ⟨d.registry, some d.terminator, setup.sessionLimit, setup.adminToken⟩, s)
    | (none, s) => (.error .noDatabase, s)

/-- Starts the service, and tells what is said meanwhile. -/
def Setup.start (setup : Setup) (around : Surroundings σ) (s : σ) :
    Except StartError (Api σ) × List LogLine × σ :=
  match setup.api around s with
  | (.ok api, s) => (.ok api, [setup.startupLine, setup.listeningLine], s)
  | (.error e, s) => (.error e, [setup.startupLine], s)

end LoginGate
