import LoginGate.Proofs.Flow.Recording

/-!
# The limit is evaluated once

A step *arrives* at the gate if it reports an outcome that the gate follows.
The first arrival of an attempt evaluates the limit, in the attributes that the
gate has written, and the second one makes the attempt fail: the registry is
asked at most once, whatever calls the attempt is taken through.

* `gauge_of_turn`: what the arrivals so far say about the counts;
* `single_evaluation`: what they say about a course.
-/

namespace LoginGate

/-- The step that arrives at the gate, if the event tells that one does. -/
def FlowDefinition.arrival? (d : FlowDefinition) : FlowEvent → Option StepId
  | .reported step outcome =>
    match d.continuation? step outcome with
    | some (.sessionLimitGate _) => some step
    | _ => none
  | _ => none

/-- The steps that arrived at the gate, in order. -/
def Situation.arrivals {σ : Type} (s : Situation σ) (d : FlowDefinition) : List StepId :=
  s.view d.arrival?

/-- The diagnostic about a count, if the registry answered. -/
def Reading.diagnostic? (r : Reading) : Option String :=
  match r.answer with
  | .ok count =>
    some ("Within session limit: " ++ if count < r.limit.value then "true" else "false")
  | .error _ => none

namespace Controller

variable {σ : Type} {c : Controller σ}

/-! ### One evaluation -/

/-- What an evaluation at the gate says, by the limit in the attributes that the
    gate has written. -/
theorem evaluationAt_eq (gate : SessionLimitGate) (s : Situation σ) :
    c.evaluationAt gate s =
      match SessionLimit.parse
        ((s.attempt.attributes.insertAll gate.attributes.entries).get? limitAttribute) with
      | .ok limit => c.registry.evaluateLimit s.attempt.principal limit s.state
      | .error e => ⟨.error (.invalidLimit e), none, s.state⟩ := rfl

theorem reading_of_evaluateLimit (r : Registry σ) (principal : Principal) (limit : SessionLimit)
    (state : σ) : (r.evaluateLimit principal limit state).reading =
      some ⟨principal, limit, (r.count principal state).1⟩ := by
  rw [Registry.evaluateLimit_eq]

/-- An evaluation that asked for a count has the limit and the answer that the
    count is about. -/
theorem reading_of_evaluationAt {gate : SessionLimitGate} {s : Situation σ} {r : Reading}
    (h : r ∈ (c.evaluationAt gate s).reading) :
    SessionLimit.parse
        ((s.attempt.attributes.insertAll gate.attributes.entries).get? limitAttribute) =
      .ok r.limit ∧
      r.principal = s.attempt.principal ∧
      r.answer = (c.registry.count s.attempt.principal s.state).1 := by
  rw [evaluationAt_eq] at h
  split at h
  · next limit hlimit =>
    rw [reading_of_evaluateLimit, Option.mem_some_iff] at h
    obtain rfl := h
    exact ⟨hlimit, rfl, rfl⟩
  · cases h

/-- An evaluation asks for a count exactly if there is a limit for it. -/
theorem length_reading_evaluationAt (gate : SessionLimitGate) (s : Situation σ) :
    (c.evaluationAt gate s).reading.toList.length = 1 ↔ ∃ limit, SessionLimit.parse
      ((s.attempt.attributes.insertAll gate.attributes.entries).get? limitAttribute) =
        .ok limit := by
  rw [evaluationAt_eq]
  cases SessionLimit.parse
    ((s.attempt.attributes.insertAll gate.attributes.entries).get? limitAttribute) with
  | ok limit => simp [reading_of_evaluateLimit]
  | error e => simp

/-- There is a verdict if the registry answered, and it compares the answer with
    the limit. -/
theorem diagnostics_of_evaluationAt (gate : SessionLimitGate) (s : Situation σ) :
    (c.evaluationAt gate s).reading.toList.filterMap Reading.diagnostic? =
      match (c.evaluationAt gate s).result with
      | .ok verdict => (FlowEvent.decided verdict.isWithin).diagnostic?.toList
      | .error _ => [] := by
  rw [evaluationAt_eq]
  split
  · next limit _ =>
    rw [Registry.evaluateLimit]
    rcases c.registry.count s.attempt.principal s.state with ⟨e | count, t⟩
    · rfl
    · by_cases h : count < limit.value <;>
        simp [Reading.diagnostic?, FlowEvent.diagnostic?, Verdict.ofCount, Verdict.isWithin, h]
  · rfl

end Controller

/-! ### Arrivals -/

/-- The step whose second arrival ended the attempt, if one did. -/
def Stage.refused : Stage → List StepId
  | .over (.error (.alreadyEvaluated step)) => [step]
  | _ => []

theorem Stage.mem_refused_iff {stage : Stage} {step : StepId} :
    step ∈ stage.refused ↔ stage.result? = some (.error (.alreadyEvaluated step)) := by
  rcases stage with _ | _ | p | (error | report)
  · simp [refused, result?]
  · simp [refused, result?]
  · simp [refused, result?]
  · cases error <;> simp [refused, result?, Except.map, eq_comm]
  · simp [refused, result?, Except.map]

namespace Controller

variable {σ : Type} {c : Controller σ}

/-- At a moment that turns lead to from the first one, the step `p` reports an
    outcome that the gate follows, in the situation `s`. -/
structure Arrives (c : Controller σ) (first : Moment σ) (p : Pending) (outcome : Outcome)
    (s : Situation σ) (gate : SessionLimitGate) : Prop where
  /-- The step reports. -/
  reports : ∃ before told m, c.Turns before first m ∧ c.Reports told m p outcome s
  /-- The gate follows. -/
  gate : c.definition.continuation? p.step outcome = some (.sessionLimitGate gate)

/-- What the arrivals so far say about the counts. -/
structure Gauge (c : Controller σ) (first m : Moment σ) : Prop where
  /-- Turns lead to the moment. -/
  turns : ∃ before, c.Turns before first m
  /-- There is a diagnostic about each count that was answered. -/
  diagnostics : m.situation.diagnostics = m.situation.readings.filterMap Reading.diagnostic?
  /-- Before the first arrival there are no counts. -/
  before : m.execution.evaluated = false →
    m.situation.arrivals c.definition = [] ∧ m.situation.readings = []
  /-- After it, the counts are those of its evaluation, and only a refused step
      has arrived since. -/
  after : m.execution.evaluated = true → ∃ p outcome s gate, c.Arrives first p outcome s gate ∧
    s.arrivals c.definition = [] ∧
    m.situation.arrivals c.definition = p.step :: m.stage.refused ∧
    m.situation.readings = (c.evaluationAt gate (s.report p.step outcome)).reading.toList
  /-- If a step was refused, it arrived when another had arrived, and nothing
      else happened. -/
  refused : ∀ step ∈ m.stage.refused, ∃ p outcome s gate, c.Arrives first p outcome s gate ∧
    s.arrivals c.definition ≠ [] ∧ step = p.step ∧
    m.situation = (s.report p.step outcome).fail (.alreadyEvaluated p.step)

theorem Executes.principal_eq {s s' : Situation σ} {p : Pending}
    {r : Except StepError StepStatus} (h : c.Executes s p r s') :
    s'.attempt.principal = s.attempt.principal := by
  cases h with
  | mk => rfl

theorem Reports.principal_eq {told : Option Outcome} {m : Moment σ} {p : Pending}
    {outcome : Outcome} {s : Situation σ} (h : c.Reports told m p outcome s) :
    s.attempt.principal = m.situation.attempt.principal := by
  cases h with
  | completed hx => exact hx.principal_eq
  | resumed => rfl

theorem Ensues.principal_eq {p : Pending} {outcome : Outcome} {s : Situation σ} {m : Moment σ}
    (h : c.Ensues p outcome s m) : m.situation.attempt.principal = s.attempt.principal := by
  cases h <;> rfl

/-- A turn follows an outcome, or no step arrives and the registry is not asked. -/
theorem Turn.follows_or_quiet {told : Option Outcome} {m m' : Moment σ} (h : c.Turn told m m') :
    (∃ p outcome s, c.Reports told m p outcome s ∧ c.Ensues p outcome s m') ∨
      (m.stage.refused = [] ∧ m'.stage.refused = [] ∧
        m'.execution.evaluated = m.execution.evaluated ∧
        m'.situation.attempt.principal = m.situation.attempt.principal ∧
        ∀ {α : Type} (f : FlowEvent → Option α), (∀ step, f (.executing step) = none) →
          (∀ step, f (.suspended step) = none) → (∀ e, f (.failed e) = none) →
          m'.situation.view f = m.situation.view f) := by
  cases h with
  | follow hr he => exact .inl ⟨_, _, _, hr, he⟩
  | start => exact .inr ⟨rfl, rfl, rfl, rfl, fun _ _ _ _ => rfl⟩
  | suspend hx =>
    refine .inr ⟨rfl, rfl, hx.evaluated_eq, hx.principal_eq, fun f hx' hs _ => ?_⟩
    exact (Situation.view_suspend_of_none (hs _)).trans (hx.view_eq hx')
  | crash hx =>
    refine .inr ⟨rfl, rfl, hx.evaluated_eq, hx.principal_eq, fun f hx' _ hf => ?_⟩
    exact (Situation.view_fail_of_none (hf _)).trans (hx.view_eq hx')
  | exceed =>
    exact .inr ⟨rfl, rfl, rfl, rfl, fun f _ _ hf => Situation.view_fail_of_none (hf _)⟩
  | conclude => exact .inr ⟨rfl, rfl, rfl, rfl, fun _ _ _ _ => rfl⟩

/-- An attempt stays one of its principal. -/
theorem Turn.principal_eq {told : Option Outcome} {m m' : Moment σ} (h : c.Turn told m m') :
    m'.situation.attempt.principal = m.situation.attempt.principal := by
  obtain ⟨p, outcome, s, hr, he⟩ | ⟨-, -, -, hp, -⟩ := h.follows_or_quiet
  · exact he.principal_eq.trans hr.principal_eq
  · exact hp

theorem Arrives.principal_eq {first : Moment σ} {p : Pending} {outcome : Outcome}
    {s : Situation σ} {gate : SessionLimitGate} (h : c.Arrives first p outcome s gate) :
    s.attempt.principal = first.situation.attempt.principal := by
  obtain ⟨before, told, m, hts, hr⟩ := h.reports
  have hm : m.situation.attempt.principal = first.situation.attempt.principal :=
    hts.keeps (P := fun m => m.situation.attempt.principal = first.situation.attempt.principal)
      (fun _ _ _ ht hm => ht.principal_eq.trans hm) rfl
  exact hr.principal_eq.trans hm

/-- Where no step arrives and the registry is not asked, the counts stay what
    they are. -/
theorem Gauge.of_eq {first m m' : Moment σ} (h : c.Gauge first m)
    (ht : ∃ before, c.Turns before first m')
    (he : m'.execution.evaluated = m.execution.evaluated) (hn : m.stage.refused = [])
    (hn' : m'.stage.refused = [])
    (ha : m'.situation.arrivals c.definition = m.situation.arrivals c.definition)
    (hr : m'.situation.readings = m.situation.readings)
    (hd : m'.situation.diagnostics = m.situation.diagnostics) : c.Gauge first m' where
  turns := ht
  diagnostics := by rw [hd, hr, h.diagnostics]
  before hb := by
    rw [ha, hr]
    exact h.before (he.symm.trans hb)
  after hb := by
    rw [ha, hr, hn']
    exact hn ▸ h.after (he.symm.trans hb)
  refused step hs := by
    rw [hn'] at hs
    cases hs

/-- A report shows nothing of the gate before it is followed. -/
theorem Reports.views_eq {told : Option Outcome} {m : Moment σ} {p : Pending}
    {outcome : Outcome} {s : Situation σ} (h : c.Reports told m p outcome s) :
    s.arrivals c.definition = m.situation.arrivals c.definition ∧
      s.readings = m.situation.readings ∧ s.diagnostics = m.situation.diagnostics :=
  ⟨h.view_eq fun _ => rfl, h.view_eq fun _ => rfl, h.view_eq fun _ => rfl⟩

theorem Reports.refused_eq {told : Option Outcome} {m : Moment σ} {p : Pending}
    {outcome : Outcome} {s : Situation σ} (h : c.Reports told m p outcome s) :
    m.stage.refused = [] := by
  cases h <;> rfl

/-- An outcome that the gate does not follow changes nothing about it. -/
theorem Ensues.quiet_or_gate {p : Pending} {outcome : Outcome} {s : Situation σ} {m : Moment σ}
    (h : c.Ensues p outcome s m) :
    (∃ gate, c.definition.continuation? p.step outcome = some (.sessionLimitGate gate)) ∨
      (m.stage.refused = [] ∧ m.execution.evaluated = s.attempt.execution.evaluated ∧
        m.situation.arrivals c.definition = s.arrivals c.definition ∧
        m.situation.readings = s.readings ∧ m.situation.diagnostics = s.diagnostics) := by
  cases h with
  | again hk => exact .inl ⟨_, hk⟩
  | pass hk => exact .inl ⟨_, hk⟩
  | refuse hk => exact .inl ⟨_, hk⟩
  | next hk | last hk | rest hk | execute hk | route hk =>
    refine .inr ⟨rfl, rfl, ?_, ?_, ?_⟩
    · simp [Situation.arrivals, FlowDefinition.arrival?, hk]
    · simp [Situation.readings, FlowEvent.reading?]
    · simp [Situation.diagnostics, FlowEvent.diagnostic?]

/-- The second arrival is refused. -/
theorem Ensues.of_again {p : Pending} {outcome : Outcome} {s : Situation σ} {m : Moment σ}
    {gate : SessionLimitGate} (h : c.Ensues p outcome s m)
    (hk : c.definition.continuation? p.step outcome = some (.sessionLimitGate gate))
    (he : s.attempt.execution.evaluated = true) :
    m = ⟨.over (.error (.alreadyEvaluated p.step)),
      (s.report p.step outcome).fail (.alreadyEvaluated p.step)⟩ := by
  cases h with
  | again => rfl
  | pass _ he' => exact absurd (he.symm.trans he') (by simp)
  | refuse _ he' => exact absurd (he.symm.trans he') (by simp)
  | next hk' | last hk' | rest hk' | execute hk' | route hk' =>
    exact absurd (hk.symm.trans hk') (by simp)

/-- The first arrival evaluates the limit. -/
theorem Ensues.of_first {p : Pending} {outcome : Outcome} {s : Situation σ} {m : Moment σ}
    {gate : SessionLimitGate} (h : c.Ensues p outcome s m)
    (hk : c.definition.continuation? p.step outcome = some (.sessionLimitGate gate))
    (he : s.attempt.execution.evaluated = false) :
    m.stage.refused = [] ∧ m.execution.evaluated = true ∧
      m.situation.arrivals c.definition = s.arrivals c.definition ++ [p.step] ∧
      m.situation.readings = s.readings ++
        (c.evaluationAt gate (s.report p.step outcome)).reading.toList ∧
      m.situation.diagnostics = s.diagnostics ++
        (c.evaluationAt gate (s.report p.step outcome)).reading.toList.filterMap
          Reading.diagnostic? := by
  cases h with
  | again _ he' => exact absurd (he'.symm.trans he) (by simp)
  | @pass gate' _ hk' _ hr | @refuse gate' _ hk' _ hr =>
    -- An evaluation is shown alike, whether it gives a verdict or not.
    obtain rfl : gate = gate' := by simpa using hk.symm.trans hk'
    have hd := diagnostics_of_evaluationAt (c := c) gate (s.report p.step outcome)
    rw [hr] at hd
    refine ⟨rfl, rfl, ?_, ?_, ?_⟩
    · simp [Situation.arrivals, FlowDefinition.arrival?, hk]
    · simp [Situation.readings, FlowEvent.reading?]
    · rw [hd]
      simp [Situation.diagnostics, FlowEvent.diagnostic?]
  | next hk' | last hk' | rest hk' | execute hk' | route hk' =>
    exact absurd (hk.symm.trans hk') (by simp)

/-- At the gate, the state is left as the evaluation leaves it. -/
theorem Ensues.state_of_first {p : Pending} {outcome : Outcome} {s : Situation σ} {m : Moment σ}
    {gate : SessionLimitGate} (h : c.Ensues p outcome s m)
    (hk : c.definition.continuation? p.step outcome = some (.sessionLimitGate gate))
    (he : s.attempt.execution.evaluated = false) :
    m.situation.state = (c.evaluationAt gate (s.report p.step outcome)).state := by
  cases h with
  | again _ he' => exact absurd (he'.symm.trans he) (by simp)
  | pass hk' | refuse hk' =>
    obtain rfl := Continuation.sessionLimitGate.inj (Option.some.inj (hk.symm.trans hk'))
    rfl
  | next hk' | last hk' | rest hk' | execute hk' | route hk' =>
    exact absurd (hk.symm.trans hk') (by simp)

/-- What the refusal of a step shows, which is only that it has arrived. -/
theorem Arrives.views_refused {first : Moment σ} {p : Pending} {outcome : Outcome}
    {s : Situation σ} {gate : SessionLimitGate} (h : c.Arrives first p outcome s gate) :
    ((s.report p.step outcome).fail (.alreadyEvaluated p.step)).arrivals c.definition =
        s.arrivals c.definition ++ [p.step] ∧
      ((s.report p.step outcome).fail (.alreadyEvaluated p.step)).readings = s.readings ∧
      ((s.report p.step outcome).fail (.alreadyEvaluated p.step)).diagnostics =
        s.diagnostics := by
  refine ⟨?_, ?_, ?_⟩
  · simp [Situation.arrivals, FlowDefinition.arrival?, h.gate]
  · simp [Situation.readings, FlowEvent.reading?]
  · simp [Situation.diagnostics, FlowEvent.diagnostic?]

/-- A step that arrives when another has arrived is refused, and neither counts
    nor diagnostics are added. -/
theorem Gauge.of_again {first m : Moment σ} {told : Option Outcome} {p : Pending}
    {outcome : Outcome} {s : Situation σ} {gate : SessionLimitGate} (h : c.Gauge first m)
    (harr : c.Arrives first p outcome s gate) (hr : c.Reports told m p outcome s)
    (hev : s.attempt.execution.evaluated = true)
    (ht : ∃ before, c.Turns before first ⟨.over (.error (.alreadyEvaluated p.step)),
      (s.report p.step outcome).fail (.alreadyEvaluated p.step)⟩) :
    c.Gauge first ⟨.over (.error (.alreadyEvaluated p.step)),
      (s.report p.step outcome).fail (.alreadyEvaluated p.step)⟩ := by
  obtain ⟨ha, hc, hd⟩ := hr.views_eq
  obtain ⟨p₀, outcome₀, s₀, gate₀, harr₀, hs₀, hfirst, hcounts⟩ :=
    h.after (hr.evaluated_eq.symm.trans hev)
  rw [hr.refused_eq] at hfirst
  obtain ⟨ha', hc', hd'⟩ := harr.views_refused
  refine ⟨ht, ?_, fun hf => ?_, fun _ => ?_, fun step hs => ?_⟩
  · exact (hd'.trans hd).trans (h.diagnostics.trans (congrArg _ (hc'.trans hc).symm))
  · exact absurd (hev.symm.trans hf) (by simp)
  · -- The first arrival stays the one that the counts are about.
    refine ⟨p₀, outcome₀, s₀, gate₀, harr₀, hs₀, ?_, (hc'.trans hc).trans hcounts⟩
    rw [ha', ha, hfirst]
    rfl
  · refine ⟨p, outcome, s, gate, harr, ?_, List.mem_singleton.1 hs, rfl⟩
    rw [ha, hfirst]
    exact List.cons_ne_nil _ _

/-- The counts of the first arrival are those of its evaluation. -/
theorem Gauge.of_first {first m m' : Moment σ} {told : Option Outcome} {p : Pending}
    {outcome : Outcome} {s : Situation σ} {gate : SessionLimitGate} (h : c.Gauge first m)
    (harr : c.Arrives first p outcome s gate) (hr : c.Reports told m p outcome s)
    (he : c.Ensues p outcome s m') (hev : s.attempt.execution.evaluated = false)
    (ht : ∃ before, c.Turns before first m') : c.Gauge first m' := by
  obtain ⟨ha, hc, hd⟩ := hr.views_eq
  obtain ⟨hnone, hcounts⟩ := h.before (hr.evaluated_eq.symm.trans hev)
  obtain ⟨hn', hev', ha', hc', hd'⟩ := he.of_first harr.gate hev
  have hdiag : s.diagnostics = [] := by
    rw [hd, h.diagnostics, hcounts]
    rfl
  rw [ha, hnone, List.nil_append] at ha'
  rw [hc, hcounts, List.nil_append] at hc'
  rw [hdiag, List.nil_append] at hd'
  refine ⟨ht, ?_, fun hf => ?_, fun _ => ?_, fun step hs => ?_⟩
  · rw [hd', hc']
  · exact absurd (hev'.symm.trans hf) (by simp)
  · exact ⟨p, outcome, s, gate, harr, ha.trans hnone, by rw [ha', hn'], hc'⟩
  · rw [hn'] at hs
    cases hs

theorem gauge_of_turn {first m m' : Moment σ} {told : Option Outcome} (h : c.Turn told m m')
    (hm : c.Gauge first m) : c.Gauge first m' := by
  have ht : ∃ before, c.Turns before first m' := by
    obtain ⟨before, ht⟩ := hm.turns
    exact ⟨_, ht.trans (.single h)⟩
  obtain ⟨p, outcome, s, hr, he⟩ | ⟨hn, hn', hf, -, hviews⟩ := h.follows_or_quiet
  · have ha : s.arrivals c.definition = m.situation.arrivals c.definition := hr.view_eq fun _ => rfl
    have hc : s.readings = m.situation.readings := hr.view_eq fun _ => rfl
    have hd : s.diagnostics = m.situation.diagnostics := hr.view_eq fun _ => rfl
    obtain ⟨gate, hk⟩ | ⟨hn', hf', ha', hc', hd'⟩ := he.quiet_or_gate
    · -- A step arrives, and the flag tells whether one has arrived before.
      have harr : c.Arrives first p outcome s gate := by
        obtain ⟨before, ht⟩ := hm.turns
        exact ⟨⟨before, told, m, ht, hr⟩, hk⟩
      cases hev : s.attempt.execution.evaluated with
      | true =>
        obtain rfl := he.of_again hk hev
        exact hm.of_again harr hr hev ht
      | false => exact hm.of_first harr hr he hev ht
    · exact hm.of_eq ht (hf'.trans hr.evaluated_eq) hr.refused_eq hn' (ha'.trans ha)
        (hc'.trans hc) (hd'.trans hd)
  · refine hm.of_eq ht hf hn hn' ?_ ?_ ?_
    · exact hviews _ (fun _ => rfl) (fun _ => rfl) (fun _ => rfl)
    · exact hviews _ (fun _ => rfl) (fun _ => rfl) (fun _ => rfl)
    · exact hviews _ (fun _ => rfl) (fun _ => rfl) (fun _ => rfl)

/-! ### Courses -/

theorem gauge_of_follows {principal : Principal} {attributes : Attributes} {state : σ}
    {k : Course σ} {stage : Stage} (h : c.Follows (outset principal attributes state) k stage) :
    c.Gauge (outset principal attributes state) ⟨stage, k.situation⟩ := by
  refine h.turns.keeps (fun _ _ _ => gauge_of_turn) ⟨⟨[], .refl⟩, rfl, fun _ => ⟨rfl, rfl⟩, ?_, ?_⟩
  · intro hf
    cases hf
  · intro step hs
    cases hs

/-- A step has arrived at the gate if and only if it was visited. -/
theorem Gauge.arrivals_eq_nil_iff {first m : Moment σ} (h : c.Gauge first m) :
    m.situation.arrivals c.definition = [] ↔ m.execution.evaluated = false := by
  cases hev : m.execution.evaluated with
  | false => exact ⟨fun _ => rfl, fun _ => (h.before hev).1⟩
  | true =>
    obtain ⟨p, outcome, s, gate, -, -, harr, -⟩ := h.after hev
    rw [harr]
    exact ⟨nofun, nofun⟩

theorem Gauge.evaluated_of_arrivals {first m : Moment σ} (h : c.Gauge first m)
    (ha : m.situation.arrivals c.definition ≠ []) : m.execution.evaluated = true :=
  eq_true_of_ne_false (mt h.arrivals_eq_nil_iff.2 ha)

/-- After the first arrival there is one count exactly if there was a limit for it. -/
theorem Gauge.exists_arrival {first m : Moment σ} (h : c.Gauge first m)
    (ha : m.situation.arrivals c.definition ≠ []) :
    ∃ p outcome s gate, c.Arrives first p outcome s gate ∧ s.arrivals c.definition = [] ∧
      (m.situation.readings.length = 1 ↔ ∃ limit, SessionLimit.parse
        ((s.attempt.attributes.insertAll gate.attributes.entries).get? limitAttribute) =
          .ok limit) := by
  obtain ⟨p, outcome, s, gate, harr, hs, -, hcounts⟩ := h.after (h.evaluated_of_arrivals ha)
  refine ⟨p, outcome, s, gate, harr, hs, ?_⟩
  rw [hcounts]
  exact length_reading_evaluationAt gate (s.report p.step outcome)

/-- The count is the one of the first arrival. -/
theorem Gauge.of_reading {first m : Moment σ} (h : c.Gauge first m) {r : Reading}
    (hr : r ∈ m.situation.readings) :
    ∃ p outcome s gate, c.Arrives first p outcome s gate ∧ s.arrivals c.definition = [] ∧
      r ∈ (c.evaluationAt gate (s.report p.step outcome)).reading := by
  cases hev : m.execution.evaluated with
  | false =>
    rw [(h.before hev).2] at hr
    cases hr
  | true =>
    obtain ⟨p, outcome, s, gate, harr, hs, -, hcounts⟩ := h.after hev
    rw [hcounts, Option.mem_toList] at hr
    exact ⟨p, outcome, s, gate, harr, hs, hr⟩

/-- Only the sessions of the principal are counted. -/
theorem Gauge.principal_of_reading {first m : Moment σ} (h : c.Gauge first m) {r : Reading}
    (hr : r ∈ m.situation.readings) : r.principal = first.situation.attempt.principal := by
  obtain ⟨p, outcome, s, gate, harr, -, hread⟩ := h.of_reading hr
  exact (reading_of_evaluationAt hread).2.1.trans harr.principal_eq

theorem Gauge.length_readings_le {first m : Moment σ} (h : c.Gauge first m) :
    m.situation.readings.length ≤ 1 := by
  cases hev : m.execution.evaluated with
  | false =>
    rw [(h.before hev).2]
    exact Nat.zero_le 1
  | true =>
    obtain ⟨p, outcome, s, gate, -, -, -, hcounts⟩ := h.after hev
    rw [hcounts]
    exact Option.length_toList_le

/-- There was a second arrival if and only if a step was refused. -/
theorem Gauge.second_iff {first m : Moment σ} (h : c.Gauge first m) :
    1 < (m.situation.arrivals c.definition).length ↔ ∃ step, step ∈ m.stage.refused := by
  constructor
  · intro hlen
    cases hev : m.execution.evaluated with
    | false =>
      rw [(h.before hev).1] at hlen
      cases hlen
    | true =>
      obtain ⟨p, outcome, s, gate, -, -, harr, -⟩ := h.after hev
      rw [harr, List.length_cons] at hlen
      exact List.exists_mem_of_length_pos (Nat.lt_of_succ_lt_succ hlen)
  · rintro ⟨step, hs⟩
    obtain ⟨p, outcome, s, gate, harr, hne, -, hsit⟩ := h.refused step hs
    rw [hsit, harr.views_refused.1, List.length_append]
    exact Nat.succ_lt_succ (List.length_pos_iff.2 hne)

/-- In a course, the registry is asked for one count at most, when a step
    arrives at the gate for the first time, and there is a diagnostic exactly if
    it answered. It compares the answer with the limit in the attributes that
    the gate has written. The second arrival makes the attempt fail, without a
    count, a diagnostic or a change of an attribute. -/
theorem single_evaluation (c : Controller σ) (calls : List Call) (principal : Principal)
    (attributes : Attributes) (state : σ) :
    let k := c.course calls (.new principal attributes) state
    let t := c.transcript calls (.new principal attributes) state
    let first := outset principal attributes state
    t.counts = k.situation.readings.map (fun r => (r.principal, r.answer)) ∧
      k.situation.readings.length ≤ 1 ∧
      k.situation.diagnostics = k.situation.readings.filterMap Reading.diagnostic? ∧
      (∀ r ∈ k.situation.readings, ∃ p outcome s gate, c.Arrives first p outcome s gate ∧
        s.arrivals c.definition = [] ∧ r.principal = principal ∧
        SessionLimit.parse
          ((s.attempt.attributes.insertAll gate.attributes.entries).get? limitAttribute) =
            .ok r.limit ∧
        r.answer = (c.registry.count principal s.state).1) ∧
      (1 < (k.situation.arrivals c.definition).length ↔
        ∃ p outcome s gate, c.Arrives first p outcome s gate ∧ s.arrivals c.definition ≠ [] ∧
          k.result? = some (.error (.alreadyEvaluated p.step)) ∧ k.execution.state = .failed ∧
          k.situation.attempt.attributes = s.attempt.attributes ∧ k.situation.state = s.state ∧
          k.situation.readings = s.readings ∧ k.situation.diagnostics = s.diagnostics) := by
  intro k t first
  obtain ⟨stage, h, -⟩ := c.course_turns calls principal attributes state
  have hg := gauge_of_follows h
  refine ⟨(c.transcript_of_course calls principal attributes state).2.2, hg.length_readings_le,
    hg.diagnostics, fun r hr => ?_, ?_⟩
  · obtain ⟨p, outcome, s, gate, harr, hs, hread⟩ := hg.of_reading hr
    obtain ⟨hlimit, hprincipal, hanswer⟩ := reading_of_evaluationAt hread
    have hp : (s.report p.step outcome).attempt.principal = principal := harr.principal_eq
    rw [hp] at hprincipal hanswer
    exact ⟨p, outcome, s, gate, harr, hs, hprincipal, hlimit, hanswer⟩
  · rw [hg.second_iff]
    constructor
    · rintro ⟨step, hs⟩
      obtain ⟨p, outcome, s, gate, harr, hne, rfl, hsit⟩ := hg.refused step hs
      have hk : k.situation = (s.report p.step outcome).fail (.alreadyEvaluated p.step) := hsit
      refine ⟨p, outcome, s, gate, harr, hne, h.result.trans (Stage.mem_refused_iff.1 hs), ?_⟩
      rw [Course.execution, hk]
      exact ⟨rfl, rfl, rfl, harr.views_refused.2⟩
    · rintro ⟨p, outcome, s, gate, -, -, hresult, -⟩
      exact ⟨p.step, Stage.mem_refused_iff.2 (h.result.symm.trans hresult)⟩

end Controller

end LoginGate
