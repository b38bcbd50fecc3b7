import LoginGate.Proofs.Flow.Refinement
import LoginGate.Proofs.Flow.SingleEvaluation

/-!
# Logins and the gate

In a flow whose only continuation is a gate on the success of the entry, a login
passes the gate once, unless the entry reports something else than success. Then
the declared steps follow in their order, and the last one decides, without a
look at the limit.

* `gatesEntry_of_plain`: the flows that this is about;
* `authenticated_of_gatesEntry`: the two ways to a login.
-/

namespace LoginGate

namespace FlowDefinition

/-- The only continuation is a gate on the success of the entry. -/
def GatesEntry (d : FlowDefinition) (gate : SessionLimitGate) : Prop :=
  ∀ step outcome, d.continuation? step outcome =
    if step = d.entry ∧ outcome = .success then some (.sessionLimitGate gate) else none

theorem continuations_of_find? {step : StepId} {others : List StepId} {s : StepDescriptor}
    (h : (others.map StepDescriptor.plain).find? (fun s => s.id == step) = some s) :
    s.continuations = .empty := by
  obtain ⟨id, -, rfl⟩ := List.mem_map.1 (List.mem_of_find?_eq_some h)
  rfl

/-- The flows that declare such an entry, and further steps without
    continuations. -/
theorem gatesEntry_of_plain {d : FlowDefinition} {entry : StepId} {gate : SessionLimitGate}
    {others : List StepId}
    (h : d.steps = (StepDescriptor.plain entry).on .success (.sessionLimitGate gate) ::
      others.map StepDescriptor.plain) : d.GatesEntry gate := by
  intro step outcome
  have he : d.entry = entry := by
    simp [FlowDefinition.entry, h, StepDescriptor.on, StepDescriptor.plain]
  rw [continuation?, descriptor?, h, he, List.find?_cons]
  by_cases hs : entry = step
  · subst hs
    simp [StepDescriptor.on, StepDescriptor.plain, eq_comm]
  · have hid : ((StepDescriptor.plain entry).on .success (.sessionLimitGate gate)).id ≠ step := hs
    rw [beq_false_of_ne hid, if_neg fun h => hs h.1.symm]
    dsimp only
    cases hf : (others.map StepDescriptor.plain).find? (fun s => s.id == step) with
    | none => rfl
    | some s =>
      rw [Option.bind_some, continuations_of_find? hf]
      rfl

variable {d : FlowDefinition} {a : Answers} {gate : SessionLimitGate}

/-- Declared steps without continuations are all executed, if the attempt is
    complete in the end. -/
theorem passage_of_walk {ids : List StepId} {p q : Passage} {r : FlowReport}
    (hn : ∀ step ∈ ids, ∀ outcome, d.continuation? step outcome = none)
    (h : d.walk a ids p = ⟨q, .ok (.complete r)⟩) :
    q.executed = p.executed ++ ids ∧ q.evaluated = p.evaluated ∧
      r.lastOutcome = q.lastOutcome.getD .failure ∧ (ids = [] → q = p) := by
  induction ids generalizing p with
  | nil =>
    cases h
    exact ⟨(List.append_nil _).symm, rfl, rfl, fun _ => rfl⟩
  | cons step rest ih =>
    rw [walk] at h
    split at h
    · next e he =>
      exact absurd (congrArg Ending.result h) (not_complete_of_visit he r)
    · next p' hp =>
      obtain ⟨outcome, hc⟩ := continueWith_of_visit hp
      rw [continueWith_none (hn step List.mem_cons_self outcome)] at hc
      cases hc
      obtain ⟨hx, hev, hl, -⟩ := ih (fun x hx => hn x (List.mem_cons_of_mem _ hx)) h
      refine ⟨?_, hev, hl, fun hnil => absurd hnil (List.cons_ne_nil _ _)⟩
      rw [hx, List.append_assoc]
      rfl
    · next next p' hp =>
      obtain ⟨outcome, hc⟩ := continueWith_of_visit hp
      rw [continueWith_none (hn step List.mem_cons_self outcome)] at hc
      cases hc

/-- The gate is what the entry leads to on success. -/
theorem verdict_of_continueWith (hd : d.GatesEntry gate) {p q : Passage}
    {next : Option (List StepId)} (hp : p.evaluated = false)
    (h : d.continueWith a d.entry .success p = .ok (next, q)) :
    next ≠ none ∧ ∃ within, a.verdict = some (.ok within) := by
  have hk : d.continuation? d.entry .success = some (.sessionLimitGate gate) := by
    rw [hd, if_pos ⟨rfl, rfl⟩]
  rw [continueWith_gate hk hp] at h
  split at h
  · cases h
  · cases h
  · next within hv =>
    cases h
    exact ⟨nofun, within, hv⟩

/-- An interpretation that ends in a login evaluates the limit, or goes through
    the declared steps, of which there are several. -/
theorem gate_or_declared (hd : d.GatesEntry gate) {q : Passage} {r : FlowReport}
    (h : d.interpret a = ⟨q, .ok (.complete r)⟩) (hr : r.isAuthenticated = true) :
    (∃ within, a.verdict = some (.ok within)) ∨
      (q.evaluated = false ∧ q.executed = d.steps.map StepDescriptor.id ∧ 1 < d.steps.length) := by
  have hlater : ∀ step ∈ d.declaredAfter d.entry, ∀ outcome,
      d.continuation? step outcome = none := by
    intro step hstep outcome
    have hne : d.entry ∉ d.declaredAfter d.entry :=
      (List.nodup_cons.1 (d.declared_eq ▸ d.distinct)).1
    rw [hd, if_neg]
    rintro ⟨rfl, -⟩
    exact hne hstep
  rw [interpret, d.declared_eq, walk] at h
  split at h
  · next e he => exact absurd (congrArg Ending.result h) (not_complete_of_visit he r)
  · next p hp =>
    obtain ⟨outcome, hc⟩ := continueWith_of_visit hp
    by_cases ho : outcome = .success
    · subst ho
      exact absurd rfl (verdict_of_continueWith hd rfl hc).1
    · -- The gate does not follow, and the declared steps go on to the end.
      have hk : d.continuation? d.entry outcome = none := by
        rw [hd, if_neg fun he => ho he.2]
      rw [continueWith_none hk] at hc
      cases hc
      obtain ⟨hx, hev, hl, hnil⟩ := passage_of_walk hlater h
      refine .inr ⟨hev, hx.trans d.declared_eq.symm, ?_⟩
      have hlen : d.steps.length = (d.declaredAfter d.entry).length + 1 := by
        rw [← List.length_map (f := StepDescriptor.id), d.declared_eq, List.length_cons]
      rw [hlen, Nat.lt_add_left_iff_pos, List.length_pos_iff]
      -- Were the entry the only step, its outcome would be the last one.
      intro hempty
      rw [hnil hempty] at hl
      rw [FlowReport.isAuthenticated, hl] at hr
      cases outcome with
      | success => exact ho rfl
      | failure => cases hr
      | other name => cases hr
  · next next p hp =>
    obtain ⟨outcome, hc⟩ := continueWith_of_visit hp
    by_cases ho : outcome = .success
    · subst ho
      exact .inl (verdict_of_continueWith hd rfl hc).2
    · have hk : d.continuation? d.entry outcome = none := by
        rw [hd, if_neg fun he => ho he.2]
      rw [continueWith_none hk] at hc
      cases hc

end FlowDefinition

/-! ### Courses -/

/-- A verdict is told where the limit was evaluated. -/
theorem FlowEvent.eq_decided_of_verdict? {e : FlowEvent} {within : Bool}
    (h : e.verdict? = some (.ok within)) : e = .decided within := by
  cases e with
  | decided within' =>
    obtain rfl : within' = within := by simpa [FlowEvent.verdict?] using h
    rfl
  | failed error => cases error <;> simp [FlowEvent.verdict?] at h
  | executing => cases h
  | reported => cases h
  | suspended => cases h
  | counted => cases h

namespace Controller

variable {σ : Type} {c : Controller σ}

/-- A verdict comes from the answer of the registry. -/
theorem answer_of_verdict {first m : Moment σ} (h : c.Gauge first m) {within : Bool}
    (hv : m.situation.verdicts.head? = some (.ok within)) :
    ∃ r n, m.situation.readings = [r] ∧ r.answer = .ok n := by
  obtain ⟨e, he, hev⟩ := List.mem_filterMap.1 (List.mem_of_head? hv)
  obtain rfl := FlowEvent.eq_decided_of_verdict? hev
  -- The verdict is shown by a diagnostic, and so there is an answered count.
  have hdiag : m.situation.diagnostics ≠ [] :=
    List.ne_nil_of_mem (List.mem_filterMap.2 ⟨_, he, rfl⟩)
  rw [h.diagnostics] at hdiag
  have hlen := h.length_readings_le
  cases hr : m.situation.readings with
  | nil =>
    rw [hr] at hdiag
    exact absurd rfl hdiag
  | cons r rest =>
    rw [hr] at hdiag hlen
    obtain rfl : rest = [] :=
      List.length_eq_zero_iff.1 (Nat.le_zero.1 (Nat.le_of_succ_le_succ hlen))
    cases ha : r.answer with
    | ok n => exact ⟨r, n, rfl, ha⟩
    | error e => simp [Reading.diagnostic?, ha] at hdiag

/-- Where the entry is gated, a step arrives if the entry reports success. -/
theorem arrivals_eq_nil_iff {gate : SessionLimitGate} (hd : c.definition.GatesEntry gate)
    (s : Situation σ) :
    s.arrivals c.definition = [] ↔ .reported c.definition.entry .success ∉ s.events := by
  rw [Situation.arrivals, Situation.view, List.filterMap_eq_nil_iff]
  constructor
  · intro h hmem
    have hnone := h _ hmem
    rw [FlowDefinition.arrival?, hd, if_pos ⟨rfl, rfl⟩] at hnone
    cases hnone
  · intro h e he
    cases e with
    | reported step outcome =>
      rw [FlowDefinition.arrival?, hd, if_neg]
      rintro ⟨rfl, rfl⟩
      exact h he
    | executing => rfl
    | suspended => rfl
    | counted => rfl
    | decided => rfl
    | failed => rfl

/-- A login passes the gate with an answer of the registry, the only one that it
    is asked for, if the entry reports success. Otherwise it is the declared
    steps that are executed, each once and in order, and the registry is not
    asked. -/
theorem authenticated_of_gatesEntry (c : Controller σ) {gate : SessionLimitGate}
    (hd : c.definition.GatesEntry gate) (calls : List Call) (principal : Principal)
    (attributes : Attributes) (state : σ) {report : FlowReport}
    (hr : (c.course calls (.new principal attributes) state).result? =
      some (.ok (.complete report)))
    (ha : report.isAuthenticated = true) :
    let k := c.course calls (.new principal attributes) state
    let t := c.transcript calls (.new principal attributes) state
    (.reported c.definition.entry .success ∈ k.situation.events ∧
        ∃ n, t.counts = [(principal, .ok n)]) ∨
      (.reported c.definition.entry .success ∉ k.situation.events ∧ t.counts = [] ∧
        1 < c.definition.steps.length ∧
        k.execution.executed = c.definition.steps.map StepDescriptor.id) := by
  intro k t
  obtain ⟨stage, h, hready⟩ := c.course_turns calls principal attributes state
  obtain ⟨-, -, hcounts⟩ := c.transcript_of_course calls principal attributes state
  have hg := gauge_of_follows h
  have hstarted : stage ≠ .ready := by
    rintro rfl
    cases h.result.symm.trans hr
  obtain ⟨r, hr', hi⟩ := interpret_of_follows h hstarted
  obtain rfl := Option.some.inj (hr'.symm.trans hr)
  obtain ⟨within, hv⟩ | ⟨hev, hx, hlen⟩ := FlowDefinition.gate_or_declared hd hi ha
  · obtain ⟨r, n, hread, hn⟩ := answer_of_verdict hg hv
    have hmem : r ∈ k.situation.readings := hread ▸ List.mem_cons_self
    obtain ⟨p, outcome, s, gate', harr, -, hr'⟩ := hg.of_reading hmem
    have hp : r.principal = principal := (reading_of_evaluationAt hr').2.1.trans harr.principal_eq
    refine .inl ⟨?_, n, ?_⟩
    · -- Without a success of the entry, no step arrives, and nothing is counted.
      refine Classical.byContradiction fun hno => ?_
      have hev := hg.arrivals_eq_nil_iff.1 ((arrivals_eq_nil_iff hd _).2 hno)
      cases hread.symm.trans (hg.before hev).2
    · rw [hcounts, hread, List.map_singleton, hp, hn]
  · refine .inr ⟨(arrivals_eq_nil_iff hd _).1 (hg.before hev).1, ?_, hlen, hx⟩
    rw [hcounts, (hg.before hev).2]
    rfl

end Controller

/-! ### Three declared steps -/

/-- The gate of a flow that allows two sessions. -/
def declaredGate : SessionLimitGate where
  attributes := .ofList [(limitAttribute, "2")]
  proceed := ⟨"2"⟩
  remediation := ⟨"3"⟩

/-- A flow with that gate which also declares the steps that the gate leads to. -/
def declaredFlow : FlowDefinition where
  steps := (StepDescriptor.plain ⟨"1"⟩).on .success (.sessionLimitGate declaredGate) ::
    [⟨"2"⟩, ⟨"3"⟩].map StepDescriptor.plain
  nonempty := nofun
  distinct := by decide
  gates_le_one := by decide

/-- Someone. -/
def alice : Principal := ⟨"alice", by decide⟩

/-- The flow where the entry reports `outcome`, all other steps report success,
    and everyone has so many sessions. -/
def declaredController (outcome : Outcome) (sessions : Nat) : Controller Unit where
  definition := declaredFlow
  executor := ⟨fun step attempt s =>
    ⟨.ok (.completed (if step = ⟨"1"⟩ then outcome else .success)), attempt.attributes, s⟩⟩
  registry :=
    { count := fun _ s => (.ok sessions, s)
      list := fun _ s => (.ok [], s)
      ping := fun s => (.reached, s) }

theorem authenticated_over_limit :
    declaredFlow.GatesEntry declaredGate ∧
      ((declaredController .success 2).course [.start] (.new alice) ()).result? =
        some (.ok (.complete ⟨[⟨"1"⟩, ⟨"3"⟩, ⟨"2"⟩], .success⟩)) ∧
      FlowReport.isAuthenticated ⟨[⟨"1"⟩, ⟨"3"⟩, ⟨"2"⟩], .success⟩ = true ∧
      let k := (declaredController .success 2).course [.start] (.new alice) ()
      let t := (declaredController .success 2).transcript [.start] (.new alice) ()
      (.reported declaredFlow.entry .success ∈ k.situation.events ∧
          ∃ n, t.counts = [(alice, .ok n)]) ∨
        (.reported declaredFlow.entry .success ∉ k.situation.events ∧ t.counts = [] ∧
          1 < declaredFlow.steps.length ∧
          k.execution.executed = declaredFlow.steps.map StepDescriptor.id) := by
  have hd : declaredFlow.GatesEntry declaredGate := FlowDefinition.gatesEntry_of_plain rfl
  have hr : ((declaredController .success 2).course [.start] (.new alice) ()).result? =
      some (.ok (.complete ⟨[⟨"1"⟩, ⟨"3"⟩, ⟨"2"⟩], .success⟩)) := rfl
  exact ⟨hd, hr, rfl, Controller.authenticated_of_gatesEntry (declaredController .success 2) hd
    [.start] alice .empty () hr rfl⟩

/-- If the entry fails, the declared steps make a login that never passes the
    gate. -/
theorem authenticated_without_gate :
    declaredFlow.GatesEntry declaredGate ∧
      let k := (declaredController .failure 2).course [.start] (.new alice) ()
      let t := (declaredController .failure 2).transcript [.start] (.new alice) ()
      (∃ report, k.result? = some (.ok (.complete report)) ∧ report.isAuthenticated = true) ∧
        .reported declaredFlow.entry .success ∉ k.situation.events ∧ t.counts = [] := by
  have hd : declaredFlow.GatesEntry declaredGate := FlowDefinition.gatesEntry_of_plain rfl
  exact ⟨hd, ⟨_, rfl, rfl⟩,
    (Controller.arrivals_eq_nil_iff (c := declaredController .failure 2) hd _).1 rfl, rfl⟩

end LoginGate
