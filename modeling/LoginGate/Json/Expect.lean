import LoginGate.Json.Skip

/-!
# Reading what is expected

Readers of strings, arrays, maps and records straight from a text, and the
same from a document. A record is written as an object with the names of its
fields, or as an array of its fields in their order. Members that are no fields
are passed over; a field may not be repeated, while a repeated key of a map
replaces its value.
-/

namespace LoginGate.Json

namespace Reader

/-- Complains about the value that follows. -/
def unexpected {α : Type} (expected : String) : Reader α := do
  let first ← valueStart
  match ← scalar? first with
  | some v => fail (.wrongKind v.found expected)
  | none => fail (.wrongKind (if first = '[' then .array else .object) expected)

/-- Reads a string. -/
def string : Reader String := do
  if (← valueStart) = '"' then stringToken else unexpected "a string"

/-- Reads `null` as nothing, and anything else with the given reader. -/
def optional {α : Type} (r : Reader α) : Reader (Option α) := do
  if (← peek) = some 'n' then do
    skip
    literal ['u', 'l', 'l']
    return none
  else some <$> r

/-- Reads an array of things that are read alike. -/
def array {α : Type} (room : Nat) (item : Nat → Reader α) : Reader (List α) := do
  if (← valueStart) = '[' then
    nested room fun room => enclosed (items (item room)) arrayEnd
  else unexpected "a sequence"

/-- Reads an object as a map, in the order in which its members are written. -/
def map {α : Type} (room : Nat) (item : Nat → Reader α) : Reader (List (String × α)) := do
  if (← valueStart) = '\x7b' then
    nested room fun room => enclosed (do
      let read ← members (fun done key => do
        colon
        let a ← item room
        return (key, a) :: done) []
      return read.reverse) objectEnd
  else unexpected "a map"

/-- Reads a record from its named or from its ordered fields. -/
def record {α : Type} (room : Nat) (expected : String) (named ordered : Nat → Reader α) :
    Reader α := do
  let first ← valueStart
  if first = '\x7b' then nested room fun room => enclosed (named room) objectEnd
  else if first = '[' then nested room fun room => enclosed (ordered room) arrayEnd
  else unexpected expected

/-- Reads the value of a named field that was not read before. -/
def field {α : Type} (name : String) (before : Option α) (r : Reader α) : Reader (Option α) := do
  if before.isSome then failLater (.repeatedField name)
  else do
    colon
    some <$> r

/-- Passes over a member that is no field. -/
def unknownField : Reader Unit := do
  colon
  pass

/-- The value of a field that must be there. -/
def required {α : Type} (name : String) (read : Option α) : Reader α :=
  match read with
  | some a => pure a
  | none => failLater (.missingField name)

/-- Reads the next of the ordered fields of a record, which must be there. -/
def next {α : Type} (index : Nat) (expected : String) (r : Reader α) : Reader α := do
  if ← nextItem (index == 0) then r else failLater (.wrongLength index expected)

end Reader

namespace Value

/-- A string from a document. -/
def asString : Value → Except Cause String
  | .string s => .ok s
  | v => .error (.wrongKind v.found "a string")

/-- An array of strings from a document. -/
def asStrings : Value → Except Cause (List String)
  | .array items => items.mapM asString
  | v => .error (.wrongKind v.found "a sequence")

/-- A map to strings from a document. -/
def asStringMap : Value → Except Cause (List (String × String))
  | .object members => members.mapM fun m => do return (m.1, ← m.2.asString)
  | v => .error (.wrongKind v.found "a map")

/-- Nothing for `null`, and otherwise a string from a document. -/
def asOptionalString : Value → Except Cause (Option String)
  | .null => .ok none
  | v => some <$> v.asString

end Value

/-- The value of a field of a document that was not read before. -/
def fieldValue {α : Type} (name : String) (before : Option α) (read : Except Cause α) :
    Except Cause (Option α) :=
  if before.isSome then .error (.repeatedField name) else some <$> read

/-- The value of a field that must be there. -/
def requiredValue {α : Type} (name : String) (read : Option α) : Except Cause α :=
  match read with
  | some a => .ok a
  | none => .error (.missingField name)

/-- The complaint about an array that goes on after all fields are read. -/
def surplusItems (length fields : Nat) : Cause :=
  .wrongLength length
    (Text.numeral fields ++ (if fields = 1 then " element" else " elements") ++ " in sequence")

end LoginGate.Json
