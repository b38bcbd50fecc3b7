import LoginGate.Flow.Step
import LoginGate.Policy.Verdict

/-!
# Flow definitions

A flow is a list of declared steps, the first of which is where a login enters.
A declared step may register a continuation for an outcome: more steps to
execute, the gate of the session limit, or a failure of the whole login. Steps
that only continuations name need no declaration.

A flow has a step, declares no step twice, and has at most one gate; those are
the fields of `FlowDefinition`, and `FlowDefinition.ofSteps` tells which one a
list of declarations lacks.
-/

namespace LoginGate

/-- The gate of the session limit. -/
structure SessionLimitGate where
  /-- The attributes written before the limit is evaluated. -/
  attributes : Attributes
  /-- The step that goes on with the login. -/
  proceed : StepId
  /-- The step before that one if the principal is over the limit. -/
  remediation : StepId
deriving DecidableEq

/-- The steps that a gate leads to. -/
def SessionLimitGate.steps (gate : SessionLimitGate) (within : Bool) : List StepId :=
  if within then [gate.proceed] else [gate.remediation, gate.proceed]

/-- What follows an outcome of a step. -/
inductive Continuation where
  /-- The steps are executed in order. -/
  | execute (steps : List StepId)
  /-- The session limit decides which steps are executed. -/
  | sessionLimitGate (gate : SessionLimitGate)
  /-- The login fails. -/
  | fail (reason : Option String)
deriving DecidableEq

/-- Whether a continuation is a gate. -/
def Continuation.isGate : Continuation → Bool
  | .sessionLimitGate _ => true
  | _ => false

/-- The declaration of a step. -/
structure StepDescriptor where
  /-- The id of the step. -/
  id : StepId
  /-- The continuations of its outcomes. -/
  continuations : Dictionary Outcome Continuation
deriving DecidableEq

namespace StepDescriptor

/-- The declaration of a step without continuations. -/
def plain (id : StepId) : StepDescriptor := ⟨id, .empty⟩

/-- The declaration with a continuation for an outcome. -/
def on (d : StepDescriptor) (outcome : Outcome) (c : Continuation) : StepDescriptor :=
  { d with continuations := d.continuations.insert outcome c }

/-- The gates among the continuations. -/
def gates (d : StepDescriptor) : Nat := d.continuations.values.countP Continuation.isGate

end StepDescriptor

/-- Why a list of declarations is no flow. -/
inductive DefinitionError where
  /-- There is no step. -/
  | noSteps
  /-- A step is declared again. -/
  | repeatedStep (id : StepId)
  /-- There is more than one gate. -/
  | severalGates (count : Nat)
deriving DecidableEq, Repr

/-- The error in words. -/
def DefinitionError.message : DefinitionError → String
  | .noSteps => "Flow must declare at least one step"
  | .repeatedStep id => "Step " ++ id.text ++ " is declared more than once"
  | .severalGates count =>
    "Only one session limit gate is allowed per flow, found " ++ Text.numeral count

/-- The first of the ids that occurred before, if there is one. -/
def firstRepeated (before : List StepId) : List StepId → Option StepId
  | [] => none
  | id :: rest => if id ∈ before then some id else firstRepeated (id :: before) rest

/-- The gates of all declarations. -/
def gateCount : List StepDescriptor → Nat
  | [] => 0
  | d :: rest => d.gates + gateCount rest

/-- A flow. -/
structure FlowDefinition where
  /-- The declared steps, the first of which is the entry. -/
  steps : List StepDescriptor
  /-- There is an entry. -/
  nonempty : steps ≠ []
  /-- No step is declared twice. -/
  distinct : (steps.map StepDescriptor.id).Nodup
  /-- There is at most one gate. -/
  gates_le_one : gateCount steps ≤ 1
deriving DecidableEq

theorem firstRepeated_eq_none {before ids : List StepId} (h : firstRepeated before ids = none) :
    ids.Nodup ∧ ∀ id ∈ ids, id ∉ before := by
  induction ids generalizing before with
  | nil => simp
  | cons id rest ih =>
    simp only [firstRepeated] at h
    split at h
    · simp at h
    · next hid =>
      obtain ⟨hn, hb⟩ := ih h
      refine ⟨List.nodup_cons.2 ⟨fun hm => hb id hm (by simp), hn⟩, fun x hx => ?_⟩
      rcases List.mem_cons.1 hx with rfl | hx
      · exact hid
      · exact fun hm => hb x hx (by simp [hm])

theorem firstRepeated_of_nodup {before ids : List StepId} (hn : ids.Nodup)
    (hb : ∀ id ∈ ids, id ∉ before) : firstRepeated before ids = none := by
  induction ids generalizing before with
  | nil => rfl
  | cons id rest ih =>
    obtain ⟨hid, hn⟩ := List.nodup_cons.1 hn
    rw [firstRepeated, if_neg (hb id List.mem_cons_self)]
    refine ih hn fun x hx hmem => ?_
    rcases List.mem_cons.1 hmem with rfl | hmem
    · exact hid hx
    · exact hb x (List.mem_cons_of_mem _ hx) hmem

namespace FlowDefinition

/-- The flow with the given declarations, or the first thing that is wrong. -/
def ofSteps (steps : List StepDescriptor) : Except DefinitionError FlowDefinition :=
  if hne : steps = [] then .error .noSteps
  else
    match hr : firstRepeated [] (steps.map StepDescriptor.id) with
    | some id => .error (.repeatedStep id)
    | none =>
      if hg : gateCount steps ≤ 1 then .ok ⟨steps, hne, (firstRepeated_eq_none hr).1, hg⟩
      else .error (.severalGates (gateCount steps))

/-- The declarations of a flow give the flow. -/
theorem ofSteps_steps (d : FlowDefinition) : ofSteps d.steps = .ok d := by
  rw [ofSteps, dif_neg d.nonempty]
  split
  · next id h => simp [firstRepeated_of_nodup d.distinct] at h
  · exact dif_pos d.gates_le_one

/-- The entry step. -/
def entry (d : FlowDefinition) : StepId := (d.steps.head d.nonempty).id

/-- The declaration of a step, if it is declared. -/
def descriptor? (d : FlowDefinition) (id : StepId) : Option StepDescriptor :=
  d.steps.find? fun s => s.id == id

/-- What follows an outcome of a step, if that is registered. -/
def continuation? (d : FlowDefinition) (id : StepId) (outcome : Outcome) : Option Continuation :=
  (d.descriptor? id).bind fun s => s.continuations.get? outcome

/-- The id after the first occurrence of an id. -/
def nextAfter (id : StepId) : List StepId → Option StepId
  | [] => none
  | x :: rest => if x = id then rest.head? else nextAfter id rest

/-- The step declared after a declared step. -/
def nextDeclared? (d : FlowDefinition) (id : StepId) : Option StepId :=
  nextAfter id (d.steps.map StepDescriptor.id)

/-- The declarations of a login that enters at one step and, on success, goes
    on through the gate. -/
def sessionLimitedSteps (limit : SessionLimit) (entry proceed remediation : StepId) :
    List StepDescriptor :=
  [(StepDescriptor.plain entry).on .success
    (.sessionLimitGate ⟨limit.attributes, proceed, remediation⟩)]

/-- The flow of a login that enters at one step and, on success, goes on
    through the gate. -/
def sessionLimited (limit : SessionLimit) (entry proceed remediation : StepId) :
    FlowDefinition where
  steps := sessionLimitedSteps limit entry proceed remediation
  nonempty := by simp [sessionLimitedSteps]
  distinct := by simp [sessionLimitedSteps]
  gates_le_one := by
    simp [sessionLimitedSteps, gateCount, StepDescriptor.gates, StepDescriptor.on,
      StepDescriptor.plain, Dictionary.insert, Dictionary.empty, Dictionary.put,
      Dictionary.values, Continuation.isGate]

end FlowDefinition

end LoginGate
