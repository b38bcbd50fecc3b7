import LoginGate.Proofs.Flow.Turn

/-!
# Controllers that are alike

Two controllers of one flow are akin under a relation of situations if the
relation is kept by what either controller does about outcomes. Whether a step
was executed by the one controller or by the other makes no difference for what
follows its outcome then (`Akin.onOutcome`). They are alike under a translation
of situations if they are akin under its graph.

Two controllers accord about a principal if their executors and their registries
say the same about the principal's attempts, whenever the states that they act on
are related, and keep them related. Then the same comes of every call for such an
attempt (`Accords.perform`). One controller mirrors another if it accords with it
on translated states, about everyone. Then its courses are those of the other,
translated (`Mirrors.course`). So a controller may be watched: what a watch adds
to the state changes nothing.
-/

namespace LoginGate

variable {σ τ : Type}

/-! ### Outcomes -/

/-- Both pairs have the same first part, and their situations are related. -/
inductive Matches {α : Type} (R : Situation σ → Situation τ → Prop) :
    α × Situation σ → α × Situation τ → Prop
  | mk {a : α} {s : Situation σ} {t : Situation τ} : R s t → Matches R (a, s) (a, t)

section Matches

variable {α : Type} {R : Situation σ → Situation τ → Prop} {r : α × Situation σ}
  {r' : α × Situation τ}

theorem Matches.result (h : Matches R r r') : r'.1 = r.1 := by
  obtain ⟨-⟩ := h
  rfl

theorem Matches.situation (h : Matches R r r') : R r.2 r'.2 := by
  obtain ⟨hR⟩ := h
  exact hR

end Matches

/-- If calls go on alike after an outcome was followed, they end alike. -/
theorem Matches.goOn {R : Situation σ → Situation τ → Prop}
    {r : Except FlowError Unit × Situation σ} {r' : Except FlowError Unit × Situation τ}
    {next : Situation σ → Except FlowError Progress × Situation σ}
    {next' : Situation τ → Except FlowError Progress × Situation τ}
    (hnext : ∀ s t, R s t → Matches R (next s) (next' t)) : Matches R r r' →
    Matches R
      (match r with
        | (.error e, s) => (.error e, s)
        | (.ok (), s) => next s)
      (match r' with
        | (.error e, s) => (.error e, s)
        | (.ok (), s) => next' s) := by
  rintro @⟨a, s, t, hR⟩
  cases a with
  | error e => exact .mk hR
  | ok _ => exact hnext s t hR

namespace Controller

/-- The relation `R` of situations is kept by what both controllers do about an
    outcome. -/
structure Akin (c : Controller σ) (c' : Controller τ) (R : Situation σ → Situation τ → Prop) :
    Prop where
  /-- The flow is the same. -/
  definition : c'.definition = c.definition
  /-- The same steps wait. -/
  pending {s t} : R s t → t.attempt.execution.pending = s.attempt.execution.pending
  /-- The gate was visited in both situations or in none. -/
  evaluated {s t} : R s t → t.attempt.execution.evaluated = s.attempt.execution.evaluated
  /-- Other steps may wait. -/
  withPending {s t} (l) : R s t → R (s.withPending l) (t.withPending l)
  /-- A step may report. -/
  report {s t} (step outcome) : R s t → R (s.report step outcome) (t.report step outcome)
  /-- A verdict may be noted. -/
  decide {s t} (within) : R s t → R (s.note (.decided within)) (t.note (.decided within))
  /-- Evaluating the limit says the same. -/
  result {s t} (gate) : R s t → (c'.evaluationAt gate t).result = (c.evaluationAt gate s).result
  /-- The limit may be evaluated. -/
  read {s t} (gate) : R s t → R ((s.enterGate gate).read (c.evaluationAt gate s))
    ((t.enterGate gate).read (c'.evaluationAt gate t))

section Akin

variable {c : Controller σ} {c' : Controller τ} {R : Situation σ → Situation τ → Prop}
  {s : Situation σ} {t : Situation τ}

theorem Akin.schedule (h : c.Akin c' R) (hR : R s t) (steps : List StepId) :
    R (s.schedule steps) (t.schedule steps) := by
  rw [Situation.schedule, Situation.schedule, h.pending hR]
  exact h.withPending _ hR

theorem Akin.passGate (h : c.Akin c' R) (hR : R s t) (step : StepId) (gate : SessionLimitGate) :
    Matches R (c.passGate step gate s) (c'.passGate step gate t) := by
  cases he : s.attempt.execution.evaluated with
  | true =>
    rw [passGate_again he, passGate_again ((h.evaluated hR).trans he)]
    exact .mk hR
  | false =>
    rw [passGate_first he, passGate_first ((h.evaluated hR).trans he), h.result gate hR]
    cases (c.evaluationAt gate s).result with
    | error cause => exact .mk (h.read gate hR)
    | ok verdict => exact .mk (h.decide _ (h.read gate hR))

/-- What follows an outcome is the same for both controllers. -/
theorem Akin.onOutcome (h : c.Akin c' R) (hR : R s t) (step : StepId) (origin : Origin)
    (outcome : Outcome) :
    Matches R (c.onOutcome step origin outcome s) (c'.onOutcome step origin outcome t) := by
  have hreport := h.report step outcome hR
  rw [Controller.onOutcome, Controller.onOutcome, h.definition, h.pending hreport]
  split
  · split
    · -- No continuation: whether a declared step follows depends on what waits.
      split
      · exact .mk (h.withPending _ hreport)
      · exact .mk hreport
    · exact .mk hreport
  · exact .mk (h.schedule hreport _)
  · next gate _ =>
    have hgate := h.passGate hreport step gate
    generalize c.passGate step gate (s.report step outcome) = r at hgate ⊢
    generalize c'.passGate step gate (t.report step outcome) = r' at hgate ⊢
    obtain @⟨a, s', t', hR'⟩ := hgate
    cases a with
    | error e => exact .mk hR'
    | ok steps => exact .mk (h.schedule hR' steps)
  · exact .mk hreport

end Akin

/-- Under the translation `φ` of situations, both controllers do the same about
    an outcome. -/
structure Alike (c : Controller σ) (c' : Controller τ) (φ : Situation σ → Situation τ) :
    Prop where
  /-- The flow is the same. -/
  definition : c'.definition = c.definition
  /-- The same steps wait. -/
  pending (s) : (φ s).attempt.execution.pending = s.attempt.execution.pending
  /-- The gate was visited in both situations or in none. -/
  evaluated (s) : (φ s).attempt.execution.evaluated = s.attempt.execution.evaluated
  /-- Other steps may wait. -/
  withPending (s l) : φ (s.withPending l) = (φ s).withPending l
  /-- A step may report. -/
  report (s step outcome) : φ (s.report step outcome) = (φ s).report step outcome
  /-- A verdict may be noted. -/
  decide (s within) : φ (s.note (.decided within)) = (φ s).note (.decided within)
  /-- Evaluating the limit says the same. -/
  result (gate s) : (c'.evaluationAt gate (φ s)).result = (c.evaluationAt gate s).result
  /-- The limit may be evaluated. -/
  read (gate s) : φ ((s.enterGate gate).read (c.evaluationAt gate s)) =
    ((φ s).enterGate gate).read (c'.evaluationAt gate (φ s))

section Alike

variable {c : Controller σ} {c' : Controller τ} {φ : Situation σ → Situation τ}

theorem Alike.akin (h : c.Alike c' φ) : c.Akin c' fun s t => t = φ s where
  definition := h.definition
  pending := by rintro s _ rfl; exact h.pending s
  evaluated := by rintro s _ rfl; exact h.evaluated s
  withPending l hR := by rw [hR, h.withPending]
  report step outcome hR := by rw [hR, h.report]
  decide within hR := by rw [hR, h.decide]
  result gate hR := by rw [hR, h.result]
  read gate hR := by rw [hR, h.read]

/-- What follows an outcome is the same, translated. -/
theorem Alike.onOutcome (h : c.Alike c' φ) (step : StepId) (origin : Origin) (outcome : Outcome)
    (s : Situation σ) :
    c'.onOutcome step origin outcome (φ s) =
      ((c.onOutcome step origin outcome s).1, φ (c.onOutcome step origin outcome s).2) := by
  have hmatches := h.akin.onOutcome (s := s) rfl step origin outcome
  exact Prod.ext hmatches.result hmatches.situation

end Alike

end Controller

/-! ### Controllers in accord -/

/-- The reply with another state. -/
def StepReply.map (f : σ → τ) (r : StepReply σ) : StepReply τ := ⟨r.result, r.attributes, f r.state⟩

/-- The end of the evaluation with another state. -/
def Evaluation.map (f : σ → τ) (e : Evaluation σ) : Evaluation τ := ⟨e.result, e.reading, f e.state⟩

/-- The situation with another state. -/
def Situation.map (f : σ → τ) (s : Situation σ) : Situation τ := ⟨s.attempt, f s.state, s.events⟩

/-- The course with another state. -/
def Course.map (f : σ → τ) (k : Course σ) : Course τ := ⟨k.situation.map f, k.calls⟩

/-- The situations are the same, of an attempt of `p`, but for their states, which
    are related. -/
def Situation.Tallies (p : Principal) (R : σ → τ → Prop) (s : Situation σ) (t : Situation τ) :
    Prop :=
  ∃ v, t = s.map (fun _ => v) ∧ s.attempt.principal = p ∧ R s.state v

namespace Controller

/-- On states that the relation `R` holds of, executors and registries of both
    controllers do the same for the attempts of `p`, and keep the relation. -/
structure Accords (c : Controller σ) (c' : Controller τ) (p : Principal) (R : σ → τ → Prop) :
    Prop where
  /-- The flow is the same. -/
  definition : c'.definition = c.definition
  /-- A step may be executed. -/
  execute (step) {a s t} : a.principal = p → R s t → ∃ v,
    c'.executor.execute step a t = (c.executor.execute step a s).map (fun _ => v) ∧
      R (c.executor.execute step a s).state v
  /-- Sessions may be counted. -/
  count {s t} : R s t → ∃ v, c'.registry.count p t = ((c.registry.count p s).1, v) ∧
    R (c.registry.count p s).2 v

section Accords

variable {c : Controller σ} {c' : Controller τ} {p : Principal} {R : σ → τ → Prop}
  {s : Situation σ} {t : Situation τ}

theorem Accords.evaluationAt (h : c.Accords c' p R) (gate : SessionLimitGate)
    (hs : s.attempt.principal = p) {v : τ} (hR : R s.state v) :
    ∃ v', c'.evaluationAt gate (s.map fun _ => v) =
        (c.evaluationAt gate s).map (fun _ => v') ∧ R (c.evaluationAt gate s).state v' := by
  simp only [Controller.evaluationAt, Registry.evaluateAttempt, Registry.evaluate,
    Registry.evaluateSetting, Situation.enterGate, Situation.map, hs]
  split
  · obtain ⟨v', hcount, hR'⟩ := h.count hR
    refine ⟨v', ?_, ?_⟩
    · rw [Registry.evaluateLimit_eq, Registry.evaluateLimit_eq, hcount]
      rfl
    · rw [Registry.evaluateLimit_eq]
      exact hR'
  · exact ⟨v, rfl, hR⟩

theorem Accords.akin (h : c.Accords c' p R) : c.Akin c' (Situation.Tallies p R) where
  definition := h.definition
  pending := by rintro s _ ⟨v, rfl, -⟩; rfl
  evaluated := by rintro s _ ⟨v, rfl, -⟩; rfl
  withPending l := by rintro ⟨v, rfl, hs, hR⟩; exact ⟨v, rfl, hs, hR⟩
  report step outcome := by rintro ⟨v, rfl, hs, hR⟩; exact ⟨v, rfl, hs, hR⟩
  decide within := by rintro ⟨v, rfl, hs, hR⟩; exact ⟨v, rfl, hs, hR⟩
  result gate := by
    rintro ⟨v, rfl, hs, hR⟩
    obtain ⟨v', he, -⟩ := h.evaluationAt gate hs hR
    rw [he]
    rfl
  read gate := by
    rintro ⟨v, rfl, hs, hR⟩
    obtain ⟨v', he, hR'⟩ := h.evaluationAt gate hs hR
    rw [he]
    exact ⟨v', rfl, hs, hR'⟩

theorem Accords.run (h : c.Accords c' p R) (budget : Nat) (s : Situation σ) :
    ∀ t, s.Tallies p R t → Matches (Situation.Tallies p R) (c.run budget s) (c'.run budget t) := by
  induction budget, s using run_induction with
  | done budget s hp =>
    rintro _ ⟨v, rfl, hs, hR⟩
    rw [run_nil hp, run_nil (s := s.map fun _ => v) hp]
    exact .mk ⟨v, rfl, hs, hR⟩
  | exhausted s q rest hp =>
    rintro _ ⟨v, rfl, hs, hR⟩
    rw [run_zero hp, run_zero (s := s.map fun _ => v) hp]
    exact .mk ⟨v, rfl, hs, hR⟩
  | step budget s q rest hp ih =>
    rintro _ ⟨v, rfl, hs, hR⟩
    obtain ⟨v', hr, hR'⟩ := h.execute q.step (a := (s.take q.step rest).attempt) hs hR
    have hreply : c'.reply (s.map fun _ => v) q rest = (c.reply s q rest).map fun _ => v' := hr
    have hresult : (c'.reply (s.map fun _ => v) q rest).result = (c.reply s q rest).result :=
      congrArg StepReply.result hreply
    have hx : c'.executed (s.map fun _ => v) q rest = (c.executed s q rest).map fun _ => v' :=
      congrArg ((s.map fun _ => v).take q.step rest).accept hreply
    rw [run_succ hp, run_succ (s := s.map fun _ => v) hp, hresult, hx]
    have hR₁ : (c.executed s q rest).Tallies p R ((c.executed s q rest).map fun _ => v') :=
      ⟨v', rfl, hs, hR'⟩
    cases (c.reply s q rest).result with
    | error cause => exact .mk hR₁
    | ok status =>
      cases status with
      | suspended => exact .mk ⟨v', rfl, hs, hR'⟩
      | completed outcome =>
        exact .goOn ih (h.akin.onOutcome hR₁ q.step q.origin outcome)

theorem Accords.proceed (h : c.Accords c' p R) (hR : s.Tallies p R t) :
    Matches (Situation.Tallies p R) (c.proceed s) (c'.proceed t) := by
  obtain ⟨v, rfl, hs, hR⟩ := hR
  exact h.run _ s _ ⟨v, rfl, hs, hR⟩

theorem matches_settle {r : Except FlowError Progress × Situation σ}
    {r' : Except FlowError Progress × Situation τ} (h : Matches (Situation.Tallies p R) r r') :
    Matches (Situation.Tallies p R) (settle r) (settle r') := by
  obtain @⟨a, s, t, v, rfl, hs, hR⟩ := h
  cases a with
  | error e => exact .mk ⟨v, rfl, hs, hR⟩
  | ok progress => exact .mk ⟨v, rfl, hs, hR⟩

/-- The same comes of a call for an attempt of the principal. -/
theorem Accords.perform (h : c.Accords c' p R) (hR : s.Tallies p R t) (call : Call) :
    Matches (Situation.Tallies p R) (c.perform call s) (c'.perform call t) := by
  obtain ⟨v, rfl, hs, hR⟩ := hR
  have hexecution : (s.map fun _ => v).attempt.execution = s.attempt.execution := rfl
  cases call with
  | start =>
    rw [Controller.perform, Controller.perform, startIn, startIn, hexecution, h.definition]
    split
    · exact matches_settle (h.proceed ⟨v, rfl, hs, hR⟩)
    · exact .mk ⟨v, rfl, hs, hR⟩
  | resume outcome =>
    rw [Controller.perform, Controller.perform, resumeIn, resumeIn, hexecution]
    split
    · next step _ =>
      have hwake : s.wake.Tallies p R (s.map fun _ => v).wake := ⟨v, rfl, hs, hR⟩
      exact matches_settle (.goOn (fun _ _ => h.proceed) (h.akin.onOutcome hwake step _ outcome))
    · exact .mk ⟨v, rfl, hs, hR⟩

end Accords

/-- On translated states, executor and registry of `c'` do what those of `c` do. -/
structure Mirrors (c : Controller σ) (c' : Controller τ) (f : σ → τ) : Prop where
  /-- The flow is the same. -/
  definition : c'.definition = c.definition
  /-- A step may be executed. -/
  execute (step attempt s) :
    c'.executor.execute step attempt (f s) = (c.executor.execute step attempt s).map f
  /-- Sessions may be counted. -/
  count (principal s) : c'.registry.count principal (f s) =
    ((c.registry.count principal s).1, f (c.registry.count principal s).2)

section Mirrors

variable {c : Controller σ} {c' : Controller τ} {f : σ → τ}

theorem Mirrors.accords (h : c.Mirrors c' f) (p : Principal) :
    c.Accords c' p fun s t => t = f s where
  definition := h.definition
  execute step := by rintro attempt s _ - rfl; exact ⟨_, h.execute step attempt s, rfl⟩
  count := by rintro s _ rfl; exact ⟨_, h.count p s, rfl⟩

theorem Mirrors.perform (h : c.Mirrors c' f) (call : Call) (s : Situation σ) :
    c'.perform call (s.map f) = ((c.perform call s).1, (c.perform call s).2.map f) := by
  have hs : s.Tallies s.attempt.principal (fun s t => t = f s) (s.map f) :=
    ⟨f s.state, rfl, rfl, rfl⟩
  have hmatches := (h.accords s.attempt.principal).perform hs call
  obtain ⟨v, ht, -, rfl⟩ := hmatches.situation
  exact Prod.ext hmatches.result ht

/-- A course of the one controller is one of the other, translated. -/
theorem Mirrors.course (h : c.Mirrors c' f) (calls : List Call) (attempt : Attempt) (state : σ) :
    c'.course calls attempt (f state) = (c.course calls attempt state).map f := by
  have hfold (k : Course σ) : calls.foldl c'.extend (k.map f) = (calls.foldl c.extend k).map f := by
    induction calls generalizing k with
    | nil => rfl
    | cons call calls ih =>
      have hp := h.perform call k.situation
      have he : c'.extend (k.map f) call = (c.extend k call).map f := by
        simp only [extend, Course.map, hp]
      rw [List.foldl_cons, List.foldl_cons, he, ih]
  exact hfold ⟨⟨attempt, state, []⟩, []⟩

end Mirrors

end Controller

end LoginGate
