import LoginGate.Registry.Session
import LoginGate.Text.Blank
import LoginGate.Text.Numeral

/-!
# The registry of a database

Open sessions are rows of a table of a PostgreSQL database, each with the time
at which it expires. The database is at the other end of a connection that runs
statements; a statement that cannot be run, for whatever reason, makes the
registry unavailable.

What comes from outside is never part of the text of a statement: principals and
ids are given as parameters.
-/

namespace LoginGate

/-- A parameter of a statement. -/
inductive Parameter where
  /-- A text. -/
  | text (value : String)
  /-- A whole number. -/
  | whole (value : Nat)
deriving DecidableEq, Repr

/-- A statement with the values of its parameters, in order. -/
structure Statement where
  /-- The text of the statement. -/
  sql : String
  /-- The parameters. -/
  parameters : List Parameter
deriving DecidableEq, Repr

/-- A row of the table of sessions. -/
structure SessionRow where
  /-- The id of the session. -/
  id : String
  /-- When the session was opened, in milliseconds. -/
  createdAt : Int
  /-- The program that it was opened with. -/
  userAgent : String
  /-- The address that it was opened from. -/
  remoteIp : String
  /-- The service that it was opened for. -/
  serviceProvider : String
deriving DecidableEq, Repr

/-- The session of a row. -/
def SessionRow.session (r : SessionRow) : Session where
  id := r.id
  timestamp := String.ofList (Text.decimalInt r.createdAt)
  userAgent := r.userAgent
  ipAddress := r.remoteIp
  serviceProvider := r.serviceProvider

/-- A database that acts on a state `σ`. What fails gives nothing. -/
structure Database (σ : Type) where
  /-- Opens a connection unless there is one. -/
  connect : σ → Bool × σ
  /-- Asks whether the connection works. -/
  ping : σ → Bool × σ
  /-- Runs a statement that gives a number. -/
  number : Statement → σ → Option Int × σ
  /-- Runs a statement that gives rows. -/
  rows : Statement → σ → Option (List SessionRow) × σ
  /-- Runs a statement that changes rows, and tells how many. -/
  change : Statement → σ → Option Nat × σ

namespace Database

/-! ### Statements -/

/-- Counts the sessions of a principal. -/
def countStatement (p : Principal) : Statement where
  sql := "SELECT COUNT(*) FROM active_sessions WHERE principal = $1 AND expires_at > NOW()"
  parameters := [.text p.text]

/-- Lists the sessions of a principal, the newest first. -/
def listStatement (p : Principal) : Statement where
  sql := "SELECT session_id, (EXTRACT(EPOCH FROM created_at) * 1000)::BIGINT AS created_at_ms, " ++
    "user_agent, remote_ip, service_provider FROM active_sessions " ++
    "WHERE principal = $1 AND expires_at > NOW() ORDER BY created_at DESC LIMIT $2"
  parameters := [.text p.text, .whole sessionListLimit]

/-- Closes the session with an id. -/
def closeStatement (id : String) : Statement where
  sql := "DELETE FROM active_sessions WHERE session_id = $1"
  parameters := [.text id]

/-! ### Registry and terminator -/

/-- What an answer means, with the purpose of what was run for the complaint. -/
def answered {α β : Type} (purpose : String) (meaning : α → β) :
    Option α → Except RegistryError β
  | some a => .ok (meaning a)
  | none => .error (.unavailable ("failed to " ++ purpose))

variable {σ : Type}

/-- The registry of a database. -/
def registry (d : Database σ) : Registry σ where
  count p s :=
    let (n, s) := d.number (countStatement p) s
    (answered "count active sessions" Int.toNat n, s)
  list p s :=
    let (rows, s) := d.rows (listStatement p) s
    (answered "list active sessions" (List.map SessionRow.session) rows, s)
  ping s :=
    match d.connect s with
    | (false, s) => (.failed (.unavailable "failed to acquire database connection"), s)
    | (true, s) =>
      match d.ping s with
      | (false, s) => (.failed (.unavailable "failed to ping database"), s)
      | (true, s) => (.reached, s)

/-- The terminator of a database. A blank id is never one of a session. -/
def terminator (d : Database σ) : Terminator σ where
  terminate id s :=
    if Text.isBlankText id then (.ok false, s)
    else
      let (changed, s) := d.change (closeStatement id) s
      (answered "terminate session" (0 < ·) changed, s)

end Database

end LoginGate
