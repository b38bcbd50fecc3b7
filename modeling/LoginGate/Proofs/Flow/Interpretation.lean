import LoginGate.Flow.Controller

/-!
# What a flow means

An interpretation of a flow knows no queue of steps. It goes through the
declared steps in their order, from the entry on, as long as their outcomes
have no continuation (`walk`). The first outcome that has one ends this order
for good: the steps of the continuation are executed one after another, and
each of them is followed by all that its own continuation leads to before the
next one is executed (`descend`). The interpretation stops at the first error,
and where another step is due after as many as an attempt executes.

What the steps come to, and what the evaluation of the limit says, are the
answers of the surroundings. Where an answer is missing, the attempt waits.

* `finish_cons`: the steps that a step leads to may as well be put before those
  that are left, which is how a queue does it.
-/

namespace LoginGate

/-- What the surroundings answer to an attempt. -/
structure Answers where
  /-- What the steps come to, in the order of their execution. -/
  steps : List (Except StepError Outcome)
  /-- Whether the principal is within the limit, or why that is not known. -/
  verdict : Option (Except PolicyError Bool)

/-- How far an interpretation came. -/
structure Passage where
  /-- The steps executed so far, in order. -/
  executed : List StepId := []
  /-- The outcome that was reported last. -/
  lastOutcome : Option Outcome := none
  /-- Whether the gate was visited. -/
  evaluated : Bool := false
deriving DecidableEq, Repr

/-- Where an interpretation stops. -/
structure Ending where
  /-- How far it came. -/
  passage : Passage
  /-- The result of the attempt. -/
  result : Except FlowError Progress

/-- The end of an attempt for which no step is left. -/
def Passage.conclude (p : Passage) : Ending :=
  ⟨p, .ok (.complete ⟨p.executed, p.lastOutcome.getD .failure⟩)⟩

namespace FlowDefinition

variable (d : FlowDefinition) (a : Answers)

/-- The steps that the continuation of an outcome leads to, if there is one. -/
def continueWith (step : StepId) (outcome : Outcome) (p : Passage) :
    Except Ending (Option (List StepId) × Passage) :=
  match d.continuation? step outcome with
  | none => .ok (none, p)
  | some (.execute steps) => .ok (some steps, p)
  | some (.sessionLimitGate gate) =>
    if p.evaluated then .error ⟨p, .error (.alreadyEvaluated step)⟩
    else
      let p := { p with evaluated := true }
      match a.verdict with
      | none => .error ⟨p, .ok (.suspended step)⟩
      | some (.error cause) => .error ⟨p, .error (.policy step cause)⟩
      | some (.ok within) => .ok (some (gate.steps within), p)
  | some (.fail reason) =>
    .error ⟨p, .error (.routed step (reason.getD ("outcome " ++ outcome.name)))⟩

/-- What the last executed step leads to. -/
def respond (step : StepId) (p : Passage) : Except Ending (Option (List StepId) × Passage) :=
  match a.steps[p.executed.length - 1]? with
  | none => .error ⟨p, .ok (.suspended step)⟩
  | some (.error cause) => .error ⟨p, .error (.step step cause)⟩
  | some (.ok outcome) => d.continueWith a step outcome { p with lastOutcome := some outcome }

/-- Executes a step, and tells what it leads to. -/
def visit (step : StepId) (p : Passage) : Except Ending (Option (List StepId) × Passage) :=
  if maxSteps ≤ p.executed.length then .error ⟨p, .error (.stepLimitExceeded step)⟩
  else d.respond a step { p with executed := p.executed ++ [step] }

/-- Executes a step and all that it leads to. Continuations nest no deeper than
    an attempt has steps, as each of them takes one. -/
def descend : Nat → Passage → StepId → Except Ending Passage
  | 0, p, step => .error ⟨p, .error (.stepLimitExceeded step)⟩
  | depth + 1, p, step => do
    let (next, p) ← d.visit a step p
    (next.getD []).foldlM (descend depth) p

/-- Executes steps with all that they lead to, and ends the attempt. -/
def finish (steps : List StepId) (p : Passage) : Ending :=
  match steps.foldlM (d.descend a maxSteps) p with
  | .error e => e
  | .ok p => p.conclude

/-- Executes declared steps in order, up to the first continuation. -/
def walk : List StepId → Passage → Ending
  | [], p => p.conclude
  | step :: rest, p =>
    match d.visit a step p with
    | .error e => e
    | .ok (none, p) => walk rest p
    | .ok (some next, p) => d.finish a next p

/-- The interpretation of a flow. -/
def interpret : Ending := d.walk a (d.steps.map StepDescriptor.id) {}

variable {d a}

/-! ### Continuations -/

section Continuations

variable {step : StepId} {outcome : Outcome} {p : Passage}

theorem continueWith_none (h : d.continuation? step outcome = none) :
    d.continueWith a step outcome p = .ok (none, p) := by
  rw [continueWith, h]

theorem continueWith_execute {steps : List StepId}
    (h : d.continuation? step outcome = some (.execute steps)) :
    d.continueWith a step outcome p = .ok (some steps, p) := by
  rw [continueWith, h]

theorem continueWith_again {gate : SessionLimitGate}
    (h : d.continuation? step outcome = some (.sessionLimitGate gate)) (hp : p.evaluated = true) :
    d.continueWith a step outcome p = .error ⟨p, .error (.alreadyEvaluated step)⟩ := by
  rw [continueWith, h]
  exact if_pos hp

theorem continueWith_gate {gate : SessionLimitGate}
    (h : d.continuation? step outcome = some (.sessionLimitGate gate)) (hp : p.evaluated = false) :
    d.continueWith a step outcome p =
      match a.verdict with
      | none => .error ⟨{ p with evaluated := true }, .ok (.suspended step)⟩
      | some (.error cause) => .error ⟨{ p with evaluated := true }, .error (.policy step cause)⟩
      | some (.ok within) => .ok (some (gate.steps within), { p with evaluated := true }) := by
  rw [continueWith, h]
  exact if_neg (by simp [hp])

theorem continueWith_fail {reason : Option String}
    (h : d.continuation? step outcome = some (.fail reason)) :
    d.continueWith a step outcome p =
      .error ⟨p, .error (.routed step (reason.getD ("outcome " ++ outcome.name)))⟩ := by
  rw [continueWith, h]

end Continuations

/-! ### Steps -/

/-- The attempt waits for a missing answer. -/
theorem respond_missing {step : StepId} {p : Passage}
    (h : a.steps[p.executed.length - 1]? = none) :
    d.respond a step p = .error ⟨p, .ok (.suspended step)⟩ := by
  rw [respond, h]

theorem respond_error {step : StepId} {p : Passage} {cause : StepError}
    (h : a.steps[p.executed.length - 1]? = some (.error cause)) :
    d.respond a step p = .error ⟨p, .error (.step step cause)⟩ := by
  rw [respond, h]

theorem respond_ok {step : StepId} {p : Passage} {outcome : Outcome}
    (h : a.steps[p.executed.length - 1]? = some (.ok outcome)) :
    d.respond a step p = d.continueWith a step outcome { p with lastOutcome := some outcome } := by
  rw [respond, h]

theorem executed_of_continueWith {step : StepId} {outcome : Outcome} {p q : Passage}
    {next : Option (List StepId)} (h : d.continueWith a step outcome p = .ok (next, q)) :
    q.executed = p.executed := by
  rw [continueWith] at h
  split at h
  · cases h; rfl
  · cases h; rfl
  · split at h
    · cases h
    · dsimp only at h
      split at h
      · cases h
      · cases h
      · cases h; rfl
  · cases h

/-- A step is left with the outcome that it reported. -/
theorem continueWith_of_visit {step : StepId} {p q : Passage} {next : Option (List StepId)}
    (h : d.visit a step p = .ok (next, q)) :
    ∃ outcome, d.continueWith a step outcome
      ⟨p.executed ++ [step], some outcome, p.evaluated⟩ = .ok (next, q) := by
  rw [visit] at h
  split at h
  · cases h
  · rw [respond] at h
    split at h
    · cases h
    · cases h
    · next outcome _ => exact ⟨outcome, h⟩

/-- A visit takes one step. -/
theorem executed_of_visit {step : StepId} {p q : Passage} {next : Option (List StepId)}
    (h : d.visit a step p = .ok (next, q)) : q.executed = p.executed ++ [step] := by
  obtain ⟨outcome, h⟩ := continueWith_of_visit h
  exact executed_of_continueWith h

theorem not_complete_of_continueWith {step : StepId} {outcome : Outcome} {p : Passage}
    {e : Ending} (h : d.continueWith a step outcome p = .error e) (r : FlowReport) :
    e.result ≠ .ok (.complete r) := by
  rw [continueWith] at h
  split at h
  · cases h
  · cases h
  · split at h
    · cases h
      nofun
    · dsimp only at h
      split at h
      · cases h
        nofun
      · cases h
        nofun
      · cases h
  · cases h
    nofun

/-- Where an interpretation is interrupted, the attempt is not complete. -/
theorem not_complete_of_visit {step : StepId} {p : Passage} {e : Ending}
    (h : d.visit a step p = .error e) (r : FlowReport) : e.result ≠ .ok (.complete r) := by
  rw [visit] at h
  split at h
  · cases h
    nofun
  · rw [respond] at h
    split at h
    · cases h
      nofun
    · cases h
      nofun
    · exact not_complete_of_continueWith h r

/-! ### Depth -/

theorem descend_succ (depth : Nat) (p : Passage) (step : StepId) :
    d.descend a (depth + 1) p step =
      match d.visit a step p with
      | .error e => .error e
      | .ok (next, q) => (next.getD []).foldlM (d.descend a depth) q := by
  rw [descend]
  rcases d.visit a step p with _ | ⟨next, q⟩ <;> rfl

/-- Going on step by step keeps what each step keeps. -/
theorem foldlM_keeps {f : Passage → StepId → Except Ending Passage} {P : Passage → Prop}
    (hf : ∀ p step q, P p → f p step = .ok q → P q) {steps : List StepId} {p q : Passage}
    (hp : P p) (h : steps.foldlM f p = .ok q) : P q := by
  induction steps generalizing p with
  | nil =>
    cases h
    exact hp
  | cons step steps ih =>
    rw [List.foldlM_cons] at h
    cases hs : f p step with
    | error e =>
      rw [hs] at h
      cases h
    | ok p' =>
      rw [hs] at h
      exact ih (hf p step p' hp hs) h

/-- Going on step by step is the same for functions that agree where it leads. -/
theorem foldlM_congr_of {f g : Passage → StepId → Except Ending Passage} {P : Passage → Prop}
    (hfg : ∀ p step, P p → f p step = g p step)
    (hg : ∀ p step q, P p → g p step = .ok q → P q) {steps : List StepId} {p : Passage}
    (hp : P p) : steps.foldlM f p = steps.foldlM g p := by
  induction steps generalizing p with
  | nil => rfl
  | cons step steps ih =>
    rw [List.foldlM_cons, List.foldlM_cons, hfg p step hp]
    cases hs : g p step with
    | error e => rfl
    | ok p' => exact ih (hg p step p' hp hs)

theorem length_le_of_descend {depth : Nat} {step : StepId} {p q : Passage}
    (h : d.descend a depth p step = .ok q) : p.executed.length ≤ q.executed.length := by
  induction depth generalizing step p q with
  | zero => cases h
  | succ depth ih =>
    rw [descend_succ] at h
    split at h
    · cases h
    · next next p' hv =>
      -- The visit takes a step, and what follows gives none back.
      refine foldlM_keeps (P := fun r => p.executed.length ≤ r.executed.length)
        (fun r x r' hr hd => Nat.le_trans hr (ih hd)) ?_ h
      rw [executed_of_visit hv, List.length_append]
      exact Nat.le_add_right _ _

/-- A greater depth makes no difference where the steps run out before it. -/
theorem descend_deeper {depth : Nat} {step : StepId} {p : Passage}
    (h : maxSteps ≤ depth + p.executed.length) :
    d.descend a (depth + 1) p step = d.descend a depth p step := by
  induction depth generalizing step p with
  | zero =>
    -- There is no step left to visit, at either depth.
    rw [descend_succ, visit, if_pos (by omega)]
    rfl
  | succ depth ih =>
    rw [descend_succ, descend_succ]
    split
    · rfl
    · next next q hv =>
      -- One level deeper, one more step was executed.
      have hq : maxSteps ≤ depth + q.executed.length := by
        rw [executed_of_visit hv, List.length_append, List.length_singleton]
        omega
      refine foldlM_congr_of (P := fun r => maxSteps ≤ depth + r.executed.length)
        (fun r x hr => ih hr) (fun r x r' hr hd => ?_) hq
      have := length_le_of_descend hd
      omega

/-! ### Interpretation with a queue -/

/-- What a step leads to may as well be put before the steps that are left. -/
theorem finish_cons (step : StepId) (later : List StepId) (p : Passage) :
    d.finish a (step :: later) p =
      match d.visit a step p with
      | .error e => e
      | .ok (next, q) => d.finish a (next.getD [] ++ later) q := by
  -- With one more level, all siblings are executed at the same depth.
  have hd : d.descend a maxSteps p step = d.descend a (maxSteps + 1) p step :=
    (descend_deeper (Nat.le_add_right _ _)).symm
  rw [finish, List.foldlM_cons, hd, descend_succ]
  rcases d.visit a step p with e | ⟨next, q⟩
  · rfl
  · simp only [finish, List.foldlM_append]

end FlowDefinition

end LoginGate
