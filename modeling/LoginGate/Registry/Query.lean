import LoginGate.Json.Expect
import LoginGate.Json.Printer
import LoginGate.Principal.Format
import LoginGate.Registry.Session

/-!
# Queries for a user's sessions and what they find

The query that selects the sessions of one user from a searchable table: three
clauses joined by `AND`. Every blank and every character with a meaning in the
query language is escaped by a backslash, so that the parts of the user can
neither end a clause nor add one.

What a query finds are records of a table. The time of a session stands in its
record itself, and everything else among the values of the record. A string is taken
as it is and any other value as its compact text in canonical form; what is
absent or `null` is empty, but there is no session without an id.
-/

namespace LoginGate

/-! ### Queries -/

/-- The characters that have a meaning in queries. -/
def queryCharacters : List Char :=
  ['+', '-', '&', '|', '!', '(', ')', '\x7b', '\x7d', '[', ']', '^', '"', '~', '*', '?', ':',
    '\\', '/']

/-- Whether a character must be escaped in a term. -/
def isQueryCharacter (c : Char) : Bool := Text.isBlank c || queryCharacters.contains c

/-- A term that matches literally. -/
def escapeTerm (s : List Char) : List Char :=
  s.flatMap fun c => if isQueryCharacter c then ['\\', c] else [c]

/-- The term of a part of a user. -/
def queryTerm (s : String) : String := String.ofList (escapeTerm s.toList)

/-- The query for the sessions of a user. -/
def sessionQuery (user : QualifiedUser) : String :=
  "tenantDomain:" ++ queryTerm user.tenant ++ " AND username:" ++ queryTerm user.username ++
    " AND userstoreDomain:" ++ queryTerm user.userStore

/-! ### Records -/

/-- The text of a field, if it is there and not `null`. -/
def Json.Value.fieldText? : Json.Value → Option String
  | .string s => some s
  | .null => none
  | v => some v.canonical.render

namespace Session

/-- The field of an object with the given name. -/
def recordField? (v : Json.Value) (name : String) : Option String :=
  (v.get? name).bind Json.Value.fieldText?

/-- The session of a record. -/
def ofRecord (v : Json.Value) : Except RegistryError Session :=
  let field? (name : String) : Option String :=
    (v.get? "values").bind fun values => recordField? values name
  match field? "sessionId" with
  | none => .error (.unavailable "session record without sessionId")
  | some id => .ok {
      id
      timestamp := (recordField? v "timestamp").getD ""
      userAgent := (field? "userAgent").getD ""
      ipAddress := (field? "remoteIp").getD ""
      serviceProvider := (field? "serviceProvider").getD "" }

end Session

end LoginGate
