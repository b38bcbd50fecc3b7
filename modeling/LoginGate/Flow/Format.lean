import LoginGate.Flow.Definition
import LoginGate.Json.Expect

/-!
# The JSON form of flow definitions

A definition is an object with its `steps`; a step has an `id` and, under `on`,
its continuations by the names of outcomes; a continuation says under `action`
what it is, next to its own fields. What is empty by default may be left out.

Continuations are read in two stages, because their fields can be told only
once the action is known: first the whole value is kept apart from its action,
then the fields are taken from what was kept.
-/

namespace LoginGate

/-- What a continuation does. -/
inductive Action where
  | execute
  | sessionLimitGate
  | fail
deriving DecidableEq, Repr

namespace Action

/-- The name of an action. -/
def name : Action → String
  | .execute => "execute"
  | .sessionLimitGate => "session_limit_gate"
  | .fail => "fail"

/-- The actions, in the order in which messages list them. -/
def all : List Action := [.execute, .sessionLimitGate, .fail]

/-- The action with a name. -/
def ofName? (name : String) : Option Action := all.find? fun a => a.name == name

/-- The complaint about a name that no action has. -/
def unknown (name : String) : Json.Cause := .unknownVariant name (all.map Action.name)

end Action

/-- The member that names the action. -/
def actionKey : String := "action"

open Json (Value Cause)

/-! ### Writing -/

namespace Continuation

/-- The JSON form of a continuation. -/
def toJson : Continuation → Value
  | .execute steps =>
    .object [(actionKey, .string Action.execute.name),
      ("steps", .array (steps.map fun s => .string s.text))]
  | .sessionLimitGate gate =>
    .object [(actionKey, .string Action.sessionLimitGate.name),
      ("attributes", .object (gate.attributes.entries.map fun e => (e.1, .string e.2))),
      ("proceed", .string gate.proceed.text),
      ("remediation", .string gate.remediation.text)]
  | .fail none => .object [(actionKey, .string Action.fail.name)]
  | .fail (some reason) =>
    .object [(actionKey, .string Action.fail.name), ("reason", .string reason)]

end Continuation

/-- The JSON form of a declaration. -/
def StepDescriptor.toJson (d : StepDescriptor) : Value :=
  .object (("id", .string d.id.text) ::
    if d.continuations.isEmpty then []
    else [("on", .object (d.continuations.entries.map fun e => (e.1.name, e.2.toJson)))])

/-- The JSON form of a flow. -/
def FlowDefinition.toJson (d : FlowDefinition) : Value :=
  .object [("steps", .array (d.steps.map StepDescriptor.toJson))]

/-! ### Fields of continuations -/

namespace Continuation

open Json (fieldValue requiredValue surplusItems)

/-- The steps to execute, from the members next to the action. -/
def executeFields (before : Option (List StepId)) :
    List (String × Value) → Except Cause Continuation
  | [] => do return .execute (← requiredValue "steps" before)
  | (key, v) :: rest => do
    if key = "steps" then
      let steps ← fieldValue "steps" before (do return (← v.asStrings).map StepId.mk)
      executeFields steps rest
    else executeFields before rest

/-- The fields of a gate that are already read. -/
structure GateFields where
  /-- The attributes. -/
  attributes : Option Attributes := none
  /-- The step that goes on. -/
  proceed : Option StepId := none
  /-- The step before that one. -/
  remediation : Option StepId := none

/-- A gate, from the members next to the action. -/
def gateFields (read : GateFields) : List (String × Value) → Except Cause Continuation
  | [] => do
    return .sessionLimitGate
      { attributes := read.attributes.getD .empty
        proceed := ← requiredValue "proceed" read.proceed
        remediation := ← requiredValue "remediation" read.remediation }
  | (key, v) :: rest => do
    if key = "attributes" then
      let a ← fieldValue key read.attributes (do return Dictionary.ofList (← v.asStringMap))
      gateFields { read with attributes := a } rest
    else if key = "proceed" then
      let p ← fieldValue key read.proceed (StepId.mk <$> v.asString)
      gateFields { read with proceed := p } rest
    else if key = "remediation" then
      let r ← fieldValue key read.remediation (StepId.mk <$> v.asString)
      gateFields { read with remediation := r } rest
    else gateFields read rest

/-- A failure, from the members next to the action. -/
def failFields (before : Option (Option String)) :
    List (String × Value) → Except Cause Continuation
  | [] => .ok (.fail (before.getD none))
  | (key, v) :: rest => do
    if key = "reason" then
      let reason ← fieldValue key before v.asOptionalString
      failFields reason rest
    else failFields before rest

/-- A continuation from its fields in order. -/
def ofItems (action : Action) (items : List Value) : Except Cause Continuation :=
  match action, items with
  | .execute, [] =>
    .error (.wrongLength 0 "struct variant Continuation::Execute with 1 element")
  | .execute, steps :: rest => do
    let steps := (← steps.asStrings).map StepId.mk
    if rest.isEmpty then return .execute steps
    else throw (surplusItems (rest.length + 1) 1)
  | .fail, [] => .ok (.fail none)
  | .fail, reason :: rest => do
    let reason ← reason.asOptionalString
    if rest.isEmpty then return .fail reason else throw (surplusItems (rest.length + 1) 1)
  | .sessionLimitGate, [] => .error (.wrongLength 1 "struct SessionLimitGate with 3 elements")
  | .sessionLimitGate, attributes :: rest => do
    let attributes := Dictionary.ofList (← attributes.asStringMap)
    match rest with
    | [] => throw (.wrongLength 1 "struct SessionLimitGate with 3 elements")
    | proceed :: rest => do
      let proceed := StepId.mk (← proceed.asString)
      match rest with
      | [] => throw (.wrongLength 2 "struct SessionLimitGate with 3 elements")
      | remediation :: rest => do
        let remediation := StepId.mk (← remediation.asString)
        if rest.isEmpty then return .sessionLimitGate ⟨attributes, proceed, remediation⟩
        else throw (surplusItems (rest.length + 3) 3)

/-- A continuation from its action and what is next to it. -/
def ofParts (action : Action) (body : Value) : Except Cause Continuation :=
  match body with
  | .array items => ofItems action items
  | .object members =>
    match action with
    | .execute => executeFields none members
    | .sessionLimitGate => gateFields {} members
    | .fail => failFields none members
  | v => .error (.wrongKind v.found "internally tagged enum Continuation")

/-! ### Reading a text -/

open Json Json.Reader

/-- Reads the name of an action. -/
def actionReader : Reader Action := do
  if (← valueStart) = '"' then do
    let name ← stringToken
    match Action.ofName? name with
    | some a => pure a
    | none => Reader.fail (Action.unknown name)
  else unexpected "variant identifier"

/-- Reads one member of a continuation: its action, or a field to be kept. -/
def partReader (room : Nat) (read : Option Action × List (String × Value)) (key : String) :
    Reader (Option Action × List (String × Value)) := do
  if key = actionKey then do
    let action ← field actionKey read.1 actionReader
    return (action, read.2)
  else do
    colon
    let v ← value room
    return (read.1, (key, v) :: read.2)

/-- Reads a continuation written with the names of its fields. -/
def namedParts (room : Nat) : Reader (Action × Value) := do
  let (action, read) ← members (partReader room) (none, [])
  return (← required actionKey action, .object read.reverse)

/-- Reads a continuation written as an array of its action and its fields. -/
def orderedParts (room : Nat) : Reader (Action × Value) := do
  if ← nextItem true then do
    let action ← actionReader
    let read ← itemsWithin (value room) ((← remaining) + 1) false []
    return (action, .array read)
  else failLater (.missingField actionKey)

/-- Reads a continuation. -/
def reader (room : Nat) : Reader Continuation := do
  let (action, body) ←
    record room "internally tagged enum Continuation" namedParts orderedParts
  match ofParts action body with
  | .ok c => pure c
  | .error cause => failLater cause

end Continuation

namespace StepDescriptor

open Json Json.Reader

/-- Reads the continuations of a step. -/
def continuationsReader (room : Nat) : Reader (Dictionary Outcome Continuation) := do
  let entries ← map room Continuation.reader
  return .ofList (entries.map fun e => (Outcome.ofName e.1, e.2))

/-- Reads one member of a declaration. -/
def fieldReader (room : Nat)
    (read : Option StepId × Option (Dictionary Outcome Continuation)) (key : String) :
    Reader (Option StepId × Option (Dictionary Outcome Continuation)) := do
  if key = "id" then return (← field key read.1 (StepId.mk <$> string), read.2)
  else if key = "on" then return (read.1, ← field key read.2 (continuationsReader room))
  else do
    unknownField
    return read

/-- Reads a declaration written with the names of its fields. -/
def namedFields (room : Nat) : Reader StepDescriptor := do
  let (id, on) ← members (fieldReader room) (none, none)
  return ⟨← required "id" id, on.getD .empty⟩

/-- Reads a declaration written as an array of its fields. -/
def orderedFields (room : Nat) : Reader StepDescriptor := do
  let id ← next 0 "struct StepDescriptor with 2 elements" string
  if ← nextItem false then return ⟨⟨id⟩, ← continuationsReader room⟩
  else return ⟨⟨id⟩, .empty⟩

/-- Reads a declaration. -/
def reader (room : Nat) : Reader StepDescriptor :=
  record room "struct StepDescriptor" namedFields orderedFields

end StepDescriptor

namespace FlowDefinition

open Json Json.Reader

/-- Reads the members of a flow. -/
def namedFields (room : Nat) : Reader (List StepDescriptor) := do
  let steps ← members (fun read key =>
    if key = "steps" then field key read (array room StepDescriptor.reader)
    else do
      unknownField
      return read) none
  required "steps" steps

/-- Reads a flow written as an array of its only field. -/
def orderedFields (room : Nat) : Reader (List StepDescriptor) :=
  next 0 "struct RawFlowDefinition with 1 element" (array room StepDescriptor.reader)

/-- Reads the declarations of a flow. -/
def stepsReader : Reader (List StepDescriptor) :=
  record levels "struct RawFlowDefinition" namedFields orderedFields

end FlowDefinition

/-- Why a text is no flow. -/
inductive FormatError where
  /-- The text is not the JSON form of declarations. -/
  | unreadable (error : Json.Error)
  /-- The declarations are no flow. -/
  | invalid (error : DefinitionError)

/-- The error in words. -/
def FormatError.message : FormatError → String
  | .unreadable e => "Invalid flow definition: " ++ e.message
  | .invalid e => "Invalid flow definition: " ++ e.message

/-- Reads a flow from its JSON form. The declarations are checked before the
    text that follows them. -/
def FlowDefinition.parse (text : String) : Except FormatError FlowDefinition :=
  Json.Reader.runChecked stepsReader .unreadable
    (fun steps => (ofSteps steps).mapError .invalid) text

/-! ### Reading a document -/

namespace Continuation

/-- The action in a document. -/
def actionOf : Value → Except Cause Action
  | .string name =>
    match Action.ofName? name with
    | some a => .ok a
    | none => .error (Action.unknown name)
  | v => .error (.wrongKind v.found "variant identifier")

/-- A continuation from a document. -/
def ofJson : Value → Except Cause Continuation
  | .object members => do
    match members.lookup actionKey with
    | some v => ofParts (← actionOf v) (.object (members.filter fun m => m.1 != actionKey))
    | none => throw (.missingField actionKey)
  | .array [] => .error (.missingField actionKey)
  | .array (v :: rest) => do ofParts (← actionOf v) (.array rest)
  | v => .error (.wrongKind v.found "internally tagged enum Continuation")

end Continuation

namespace StepDescriptor

/-- The continuations of a step, from a document. -/
def continuationsOf : Value → Except Cause (Dictionary Outcome Continuation)
  | .object members => do
    return .ofList (← members.mapM fun m => do
      return (Outcome.ofName m.1, ← Continuation.ofJson m.2))
  | v => .error (.wrongKind v.found "a map")

/-- A declaration from the members of a document, each of which occurs once. -/
def ofMembers (id : Option StepId) (on : Option (Dictionary Outcome Continuation)) :
    List (String × Value) → Except Cause StepDescriptor
  | [] => do return ⟨← Json.requiredValue "id" id, on.getD .empty⟩
  | (key, v) :: rest => do
    if key = "id" then ofMembers (some ⟨← v.asString⟩) on rest
    else if key = "on" then ofMembers id (some (← continuationsOf v)) rest
    else ofMembers id on rest

/-- A declaration from a document. -/
def ofJson : Value → Except Cause StepDescriptor
  | .object members => ofMembers none none members
  | .array [] => .error (.wrongLength 0 "struct StepDescriptor with 2 elements")
  | .array [id] => do return ⟨⟨← id.asString⟩, .empty⟩
  | .array (id :: on :: rest) => do
    let id ← id.asString
    let on ← continuationsOf on
    if rest.isEmpty then return ⟨⟨id⟩, on⟩
    else throw (.wrongLength (rest.length + 2) "fewer elements in array")
  | v => .error (.wrongKind v.found "struct StepDescriptor")

end StepDescriptor

end LoginGate
