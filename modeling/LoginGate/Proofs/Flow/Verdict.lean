import LoginGate.Proofs.Flow.SingleEvaluation

/-!
# Verdicts come from counts

A verdict compares a count with the limit that the count is for, or passes on
the error of the registry. Only where there is no limit is there no count behind
the error. Where every gate of a flow writes the same limit, this cannot happen:
whoever visits a gate is counted, and measured by that limit.

* `verdicts_of_turn`: the verdicts of an attempt are those on its counts;
* `Follows.exists_reading`: the count of an attempt that visited the gate.
-/

namespace LoginGate

/-- What the policy makes of a count. -/
def Reading.verdict (r : Reading) : Except PolicyError Bool :=
  match r.answer with
  | .ok count => .ok (decide (count < r.limit.value))
  | .error e => .error (.registry e)

/-- The error as a verdict, if no count is behind it. -/
def PolicyError.uncounted : PolicyError → List (Except PolicyError Bool)
  | .invalidLimit cause => [.error (.invalidLimit cause)]
  | .registry _ => []

/-- The verdict that no count is behind, if it ended the attempt. -/
def Stage.uncounted : Stage → List (Except PolicyError Bool)
  | .over (.error (.policy _ cause)) => cause.uncounted
  | _ => []

/-- Every gate of the flow writes the limit. -/
def FlowDefinition.Limits (d : FlowDefinition) (limit : SessionLimit) : Prop :=
  ∀ step outcome gate, d.continuation? step outcome = some (.sessionLimitGate gate) →
    gate.attributes.get? limitAttribute = some limit.text

namespace Controller

variable {σ : Type} {c : Controller σ} {told : Option Outcome}

/-! ### One evaluation -/

theorem verdict_of_ok {gate : SessionLimitGate} {s : Situation σ} {verdict : Verdict}
    (h : (c.evaluationAt gate s).result = .ok verdict) :
    (c.evaluationAt gate s).reading.toList.map Reading.verdict = [.ok verdict.isWithin] := by
  rw [evaluationAt_eq] at h ⊢
  split at h
  · next limit _ =>
    rw [Registry.evaluateLimit] at h ⊢
    generalize c.registry.count s.attempt.principal s.state = reply at h ⊢
    obtain ⟨e | count, t⟩ := reply
    · cases h
    · cases h
      by_cases hlt : count < limit.value <;>
        simp [Reading.verdict, Verdict.ofCount, Verdict.isWithin, hlt]
  · cases h

/-- An evaluation without a verdict has asked for a count if and only if there
    was a limit, and it fails with the error of the registry then. -/
theorem reading_of_error {gate : SessionLimitGate} {s : Situation σ} {cause : PolicyError}
    (h : (c.evaluationAt gate s).result = .error cause) :
    (∃ e, cause = .invalidLimit e ∧ (c.evaluationAt gate s).reading = none ∧
      SessionLimit.parse
        ((s.attempt.attributes.insertAll gate.attributes.entries).get? limitAttribute) = .error e) ∨
      ∃ e r, cause = .registry e ∧ (c.evaluationAt gate s).reading = some r ∧
        r.answer = .error e := by
  rw [evaluationAt_eq] at h ⊢
  split at h
  · next limit _ =>
    rw [Registry.evaluateLimit] at h ⊢
    generalize c.registry.count s.attempt.principal s.state = reply at h ⊢
    obtain ⟨e | count, t⟩ := reply
    · cases h
      exact .inr ⟨e, _, rfl, rfl, rfl⟩
    · cases h
  · next e hlimit =>
    cases h
    exact .inl ⟨e, rfl, rfl, hlimit⟩

theorem verdict_of_error {gate : SessionLimitGate} {s : Situation σ} {cause : PolicyError}
    (h : (c.evaluationAt gate s).result = .error cause) :
    (c.evaluationAt gate s).reading.toList.map Reading.verdict ++ cause.uncounted =
      [.error cause] := by
  obtain ⟨e, rfl, hread, -⟩ | ⟨e, r, rfl, hread, hanswer⟩ := reading_of_error h
  · rw [hread]
    rfl
  · rw [hread, Option.toList_some, List.map_singleton, Reading.verdict, hanswer]
    rfl

/-- At a gate that writes a setting of its own, the setting is evaluated for the
    principal, whatever setting there was before. -/
theorem evaluationAt_of_setting {gate : SessionLimitGate} {setting : String}
    (h : gate.attributes.get? limitAttribute = some setting) (s : Situation σ) :
    c.evaluationAt gate s =
      c.registry.evaluateSetting s.attempt.principal (some setting) s.state := by
  have hwritten : (s.attempt.attributes.insertAll gate.attributes.entries).get? limitAttribute =
      some setting := by
    rw [Dictionary.get?_insertAll gate.attributes.distinct, ← Dictionary.get?, h]
    rfl
  rw [← hwritten]
  rfl

/-- If the setting is a limit, the principal is counted for it. -/
theorem evaluationAt_of_limit {gate : SessionLimitGate} {limit : SessionLimit}
    (h : gate.attributes.get? limitAttribute = some limit.text) (s : Situation σ) :
    c.evaluationAt gate s = c.registry.evaluateLimit s.attempt.principal limit s.state := by
  rw [evaluationAt_of_setting h, Registry.evaluateSetting, SessionLimit.parse_text]

/-! ### All evaluations of an attempt -/

theorem Reports.uncounted_eq {m : Moment σ} {p : Pending} {outcome : Outcome}
    {s : Situation σ} (h : c.Reports told m p outcome s) : m.stage.uncounted = [] := by
  cases h <;> rfl

theorem verdicts_of_ensues {p : Pending} {outcome : Outcome} {s : Situation σ} {m : Moment σ}
    (h : c.Ensues p outcome s m) (hs : s.verdicts = s.readings.map Reading.verdict) :
    m.situation.verdicts = m.situation.readings.map Reading.verdict ++ m.stage.uncounted := by
  cases h with
  | @pass gate verdict _ _ hr =>
    have hverdict := verdict_of_ok hr
    simp only [Situation.verdicts, Situation.readings] at hs ⊢
    simp [FlowEvent.verdict?, FlowEvent.reading?, hs, hverdict, Stage.uncounted]
  | @refuse gate cause _ _ hr =>
    have hverdict := verdict_of_error hr
    simp only [Situation.verdicts, Situation.readings] at hs ⊢
    simp [FlowEvent.verdict?, FlowEvent.reading?, hs, hverdict, Stage.uncounted]
  | next | last | rest | execute | again | route =>
    simpa [Situation.verdicts, Situation.readings, FlowEvent.verdict?, FlowEvent.reading?,
      Stage.uncounted] using hs

/-- The verdicts of an attempt are those on its counts, except for an error that
    no count is behind. -/
theorem verdicts_of_turn {m m' : Moment σ} (h : c.Turn told m m')
    (hm : m.situation.verdicts = m.situation.readings.map Reading.verdict ++ m.stage.uncounted) :
    m'.situation.verdicts = m'.situation.readings.map Reading.verdict ++ m'.stage.uncounted := by
  cases h with
  | start | conclude => exact hm
  | @follow _ _ _ p outcome s hr he =>
    have hv : s.verdicts = m.situation.verdicts := hr.view_eq fun _ => rfl
    rw [hr.uncounted_eq, List.append_nil, ← hv, ← hr.views_eq.2.1] at hm
    exact verdicts_of_ensues he hm
  | @suspend s s' p hx =>
    have hv : (s'.suspend p).verdicts = s.verdicts :=
      (Situation.view_suspend_of_none rfl).trans (hx.view_eq fun _ => rfl)
    have hr : (s'.suspend p).readings = s.readings :=
      (Situation.view_suspend_of_none rfl).trans (hx.view_eq fun _ => rfl)
    rw [hv, hr]
    exact hm
  | @crash s s' p cause hx =>
    have hv : (s'.fail (.step p.step cause)).verdicts = s.verdicts :=
      (Situation.view_fail_of_none rfl).trans (hx.view_eq fun _ => rfl)
    have hr : (s'.fail (.step p.step cause)).readings = s.readings :=
      (Situation.view_fail_of_none rfl).trans (hx.view_eq fun _ => rfl)
    rw [hv, hr]
    exact hm
  | @exceed s p =>
    have hv : (s.fail (.stepLimitExceeded p.step)).verdicts = s.verdicts :=
      Situation.view_fail_of_none rfl
    have hr : (s.fail (.stepLimitExceeded p.step)).readings = s.readings :=
      Situation.view_fail_of_none rfl
    rw [hv, hr]
    exact hm

/-- An attempt that visited the gate was counted once, for the limit that the
    gate writes, and its first verdict is the one on that count. -/
theorem Follows.exists_reading {principal : Principal} {attributes : Attributes} {state : σ}
    {k : Course σ} {stage : Stage} (h : c.Follows (outset principal attributes state) k stage)
    {limit : SessionLimit} (hd : c.definition.Limits limit) (hv : k.execution.evaluated = true) :
    ∃ answer, k.situation.readings = [⟨principal, limit, answer⟩] ∧
      k.situation.verdicts.head? = some (Reading.verdict ⟨principal, limit, answer⟩) := by
  obtain ⟨p, outcome, s, gate, harr, -, -, hreadings⟩ := (gauge_of_follows h).after hv
  have hverdicts : k.situation.verdicts =
      k.situation.readings.map Reading.verdict ++ stage.uncounted :=
    h.turns.keeps (fun _ _ _ => verdicts_of_turn) rfl
  have hp : (s.report p.step outcome).attempt.principal = principal := harr.principal_eq
  rw [evaluationAt_of_limit (hd _ _ _ harr.gate), reading_of_evaluateLimit, hp,
    Option.toList_some] at hreadings
  have hr : k.situation.readings = _ := hreadings
  exact ⟨_, hr, by rw [hverdicts, hr]; rfl⟩

end Controller

end LoginGate
