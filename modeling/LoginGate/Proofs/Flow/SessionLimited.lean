import LoginGate.Proofs.Flow.Authentication
import LoginGate.Proofs.Flow.Termination
import LoginGate.Proofs.Flow.Verdict

/-!
# The flow behind the gate

The built-in flow declares its entry only. On success the gate follows, and then
the steps that it leads to, which are not declared. As no outcome of theirs has
a continuation, the attempt ends after the last of them, whatever they report.

* `LimitedLogin`: what such a login comes to;
* `course_sessionLimited`: an attempt comes to this, unless it is suspended.
-/

namespace LoginGate

/-- What a login through the built-in flow comes to: the outcomes of its steps,
    the answers of the registry, and the last outcome or an error. -/
inductive LimitedLogin (limit : SessionLimit) (entry proceed remediation : StepId) :
    List (StepId × Outcome) → List (Except RegistryError Nat) → Except FlowError Outcome → Prop
  /-- The entry is not passed, and nobody is counted. -/
  | stopped {outcome : Outcome} : outcome ≠ .success →
    LimitedLogin limit entry proceed remediation [(entry, outcome)] [] (.ok outcome)
  /-- There is room for a session. -/
  | within {outcome : Outcome} {count : Nat} : count < limit.value →
    LimitedLogin limit entry proceed remediation [(entry, .success), (proceed, outcome)]
      [.ok count] (.ok outcome)
  /-- There is none, and the remediation comes first, whatever it reports. -/
  | beyond {outcome remedied : Outcome} {count : Nat} : limit.value ≤ count →
    LimitedLogin limit entry proceed remediation
      [(entry, .success), (remediation, remedied), (proceed, outcome)] [.ok count] (.ok outcome)
  /-- The sessions cannot be counted. -/
  | outage {cause : RegistryError} :
    LimitedLogin limit entry proceed remediation [(entry, .success)] [.error cause]
      (.error (.policy entry (.registry cause)))

theorem exists_of_map_fst {α β : Type} {l : List (α × β)} {a : α} {rest : List α}
    (h : l.map Prod.fst = a :: rest) : ∃ b l', l = (a, b) :: l' ∧ l'.map Prod.fst = rest := by
  obtain ⟨⟨_, b⟩, l', rfl, rfl, hl⟩ := List.map_eq_cons_iff.1 h
  exact ⟨b, l', rfl, hl⟩

namespace LimitedLogin

variable {limit : SessionLimit} {entry proceed remediation step : StepId}
  {reports : List (StepId × Outcome)} {counts : List (Except RegistryError Nat)}
  {outcome last : Outcome}

/-- A report of the entry alone. -/
theorem eq_of_entry (hx : reports.map Prod.fst = [entry])
    (hfirst : reports.head?.map Prod.snd = some outcome) : reports = [(entry, outcome)] := by
  obtain ⟨o, rest, rfl, hrest⟩ := exists_of_map_fst hx
  obtain rfl := List.map_eq_nil_iff.1 hrest
  obtain rfl : o = outcome := by simpa using hfirst
  rfl

theorem of_stopped (hx : reports.map Prod.fst = [entry])
    (hfirst : reports.head?.map Prod.snd = some outcome) (ho : outcome ≠ .success)
    (hlast : reports.getLast? = some (step, last)) :
    LimitedLogin limit entry proceed remediation reports [] (.ok last) := by
  obtain rfl := eq_of_entry hx hfirst
  obtain ⟨-, rfl⟩ : entry = step ∧ outcome = last := by simpa using hlast
  exact .stopped ho

theorem of_refused {cause : RegistryError} (hx : reports.map Prod.fst = [entry])
    (hfirst : reports.head?.map Prod.snd = some .success) :
    LimitedLogin limit entry proceed remediation reports [.error cause]
      (.error (.policy entry (.registry cause))) := by
  obtain rfl := eq_of_entry hx hfirst
  exact .outage

theorem of_passed {gate : SessionLimitGate} {count : Nat}
    (hx : reports.map Prod.fst = entry :: gate.steps (decide (count < limit.value)))
    (hfirst : reports.head?.map Prod.snd = some .success)
    (hlast : reports.getLast? = some (step, last)) :
    LimitedLogin limit entry gate.proceed gate.remediation reports [.ok count] (.ok last) := by
  obtain ⟨o, rest, rfl, hrest⟩ := exists_of_map_fst hx
  obtain rfl : o = .success := by simpa using hfirst
  by_cases hlt : count < limit.value
  · rw [decide_eq_true hlt] at hrest
    obtain ⟨o, _, rfl, hnil⟩ := exists_of_map_fst hrest
    obtain rfl := List.map_eq_nil_iff.1 hnil
    obtain ⟨-, rfl⟩ : gate.proceed = step ∧ o = last := by simpa using hlast
    exact .within hlt
  · rw [decide_eq_false hlt] at hrest
    obtain ⟨remedied, _, rfl, hproceed⟩ := exists_of_map_fst hrest
    obtain ⟨o, _, rfl, hnil⟩ := exists_of_map_fst hproceed
    obtain rfl := List.map_eq_nil_iff.1 hnil
    obtain ⟨-, rfl⟩ : gate.proceed = step ∧ o = last := by simpa using hlast
    exact .beyond (Nat.not_lt.1 hlt)

/-- The login is authenticated if and only if the step that proceeds has
    reported success in the end. -/
theorem isSuccess_iff
    (h : LimitedLogin limit entry proceed remediation reports counts (.ok outcome))
    (hp : entry ≠ proceed) :
    outcome.isSuccess = true ↔ reports.getLast? = some (proceed, .success) := by
  have hsuccess : outcome.isSuccess = true ↔ outcome = .success := by
    cases outcome <;> simp [Outcome.isSuccess]
  rw [hsuccess]
  cases h with
  | stopped ho => simp [hp, ho]
  | within => simp
  | beyond => simp

end LimitedLogin

namespace FlowDefinition

/-! ### Steps without continuations -/

section Plain

variable {d : FlowDefinition} {a : Answers}

/-- Steps without continuations are executed in order, as far as there are
    answers. -/
theorem finish_plain {steps : List StepId} {p q : Passage} {r : Except FlowError Progress}
    (hk : ∀ step ∈ steps, ∀ outcome, d.continuation? step outcome = none)
    (ha : ∀ x ∈ a.steps, ∃ outcome, x = .ok outcome)
    (hlen : p.executed.length + steps.length ≤ maxSteps)
    (h : d.finish a steps p = ⟨q, r⟩) :
    q.evaluated = p.evaluated ∧
      ((∃ step, r = .ok (.suspended step) ∧ q.executed <+: p.executed ++ steps) ∨
        ∃ report, r = .ok (.complete report) ∧ q.executed = p.executed ++ steps) := by
  induction steps generalizing p with
  | nil =>
    cases h
    exact ⟨rfl, .inr ⟨_, rfl, (List.append_nil _).symm⟩⟩
  | cons step steps ih =>
    have hfew : ¬maxSteps ≤ p.executed.length := by
      rw [List.length_cons] at hlen
      omega
    rw [finish_cons, visit, if_neg hfew] at h
    -- The step is executed, and it is asked what it came to.
    cases hx : a.steps[(p.executed ++ [step]).length - 1]? with
    | none =>
      rw [respond_missing hx] at h
      cases h
      refine ⟨rfl, .inl ⟨_, rfl, steps, ?_⟩⟩
      rw [List.append_assoc]
      rfl
    | some x =>
      obtain ⟨outcome, rfl⟩ := ha x (List.mem_of_getElem? hx)
      rw [respond_ok hx, continueWith_none (hk step List.mem_cons_self outcome)] at h
      have hlen' : (p.executed ++ [step]).length + steps.length ≤ maxSteps := by
        rw [List.length_append, List.length_singleton]
        rw [List.length_cons] at hlen
        omega
      have hrest := ih (fun x hx => hk x (List.mem_cons_of_mem _ hx)) hlen' h
      rw [List.append_assoc] at hrest
      exact hrest

end Plain

/-! ### The entry and the gate -/

/-- Where an interpretation stops that gets the answers `a`, if the flow declares
    nothing but a gated entry, no step ends with an error, and the gate gives a
    verdict. -/
inductive GatedEnding (entry : StepId) (gate : SessionLimitGate) (a : Answers) (q : Passage) :
    Except FlowError Progress → Prop
  /-- It waits for an answer. -/
  | waits {step : StepId} :
    q.executed.length ≤ 3 → GatedEnding entry gate a q (.ok (.suspended step))
  /-- The entry has not succeeded. -/
  | stopped {outcome : Outcome} {report : FlowReport} :
    a.steps.head? = some (.ok outcome) → outcome ≠ .success → q.evaluated = false →
    q.executed = [entry] → GatedEnding entry gate a q (.ok (.complete report))
  /-- The steps behind the gate were executed. -/
  | passed {within : Bool} {report : FlowReport} :
    a.steps.head? = some (.ok .success) → q.evaluated = true → a.verdict = some (.ok within) →
    q.executed = entry :: gate.steps within → GatedEnding entry gate a q (.ok (.complete report))
  /-- The gate has an error for a verdict. -/
  | refused {cause : PolicyError} :
    a.steps.head? = some (.ok .success) → q.evaluated = true → a.verdict = some (.error cause) →
    q.executed = [entry] → GatedEnding entry gate a q (.error (.policy entry cause))

section Gated

variable {d : FlowDefinition} {a : Answers} {gate : SessionLimitGate}

/-- Only the entry has a continuation. -/
theorem GatesEntry.plain (hd : d.GatesEntry gate) {step : StepId} (h : d.entry ≠ step)
    (outcome : Outcome) : d.continuation? step outcome = none := by
  rw [hd, if_neg]
  rintro ⟨rfl, -⟩
  exact h rfl

/-- Behind the gate there are at most two steps, and none of them is the entry. -/
theorem ne_of_mem_steps {entry : StepId} (hp : entry ≠ gate.proceed) (hr : entry ≠ gate.remediation)
    (within : Bool) : (∀ step ∈ gate.steps within, entry ≠ step) ∧
      (gate.steps within).length ≤ 2 := by
  cases within <;> simp [SessionLimitGate.steps, hp, hr]

/-- The entry is executed, and on success what the gate leads to, and nothing
    else. -/
theorem ending_of_gatesEntry (hd : d.GatesEntry gate)
    (hone : d.steps.map StepDescriptor.id = [d.entry]) (hp : d.entry ≠ gate.proceed)
    (hr : d.entry ≠ gate.remediation) {q : Passage} {r : Except FlowError Progress}
    (ha : ∀ x ∈ a.steps, ∃ outcome, x = .ok outcome) (hv : q.evaluated = true → a.verdict ≠ none)
    (h : d.interpret a = ⟨q, r⟩) : GatedEnding d.entry gate a q r := by
  rw [interpret, hone, walk, visit, if_neg (by decide)] at h
  obtain ⟨steps, verdict⟩ := a
  cases steps with
  | nil =>
    rw [respond_missing rfl] at h
    cases h
    exact .waits (by simp)
  | cons x later =>
    obtain ⟨outcome, rfl⟩ := ha x List.mem_cons_self
    rw [respond_ok rfl] at h
    by_cases ho : outcome = .success
    · subst ho
      have hgate : d.continuation? d.entry .success = some (.sessionLimitGate gate) := by
        rw [hd, if_pos ⟨rfl, rfl⟩]
      rw [continueWith_gate hgate rfl] at h
      rcases verdict with _ | cause | within
      · cases h
        exact absurd rfl (hv rfl)
      · cases h
        exact .refused rfl rfl rfl rfl
      · obtain ⟨hne, hlen⟩ := ne_of_mem_steps hp hr within
        have hle : (d.entry :: gate.steps within).length ≤ 3 := Nat.succ_le_succ hlen
        obtain ⟨hev, ⟨step, rfl, hx⟩ | ⟨report, rfl, hx⟩⟩ :=
          finish_plain (fun step hstep => hd.plain (hne step hstep)) ha
            (Nat.le_trans (Nat.add_le_add_left hlen 1) (by decide)) h
        · exact .waits (Nat.le_trans hx.length_le hle)
        · exact .passed rfl hev rfl hx
    · have hnone : d.continuation? d.entry outcome = none := by
        rw [hd, if_neg fun he => ho he.2]
      rw [continueWith_none hnone] at h
      cases h
      exact .stopped rfl ho rfl rfl

end Gated

/-! ### The built-in flow -/

theorem sessionLimited_gatesEntry (limit : SessionLimit) (entry proceed remediation : StepId) :
    (sessionLimited limit entry proceed remediation).GatesEntry
      ⟨limit.attributes, proceed, remediation⟩ := by
  have hsteps : (sessionLimited limit entry proceed remediation).steps =
      (StepDescriptor.plain entry).on .success
        (.sessionLimitGate ⟨limit.attributes, proceed, remediation⟩) ::
          ([] : List StepId).map StepDescriptor.plain := rfl
  exact gatesEntry_of_plain hsteps

theorem GatesEntry.limits {d : FlowDefinition} {gate : SessionLimitGate} {limit : SessionLimit}
    (hd : d.GatesEntry gate) (h : gate.attributes.get? limitAttribute = some limit.text) :
    d.Limits limit := by
  intro step outcome gate' hk
  rw [hd] at hk
  split at hk
  · cases hk
    exact h
  · cases hk

end FlowDefinition

/-! ### Courses -/

namespace Controller

variable {σ : Type} {c : Controller σ} {gate : SessionLimitGate} {limit : SessionLimit}
  {principal : Principal} {attributes : Attributes} {state : σ} {k : Course σ} {stage : Stage}

/-- The first outcome that the events tell is that of the first report. -/
theorem first_of_answers {s : Situation σ} {outcome : Outcome}
    (ha : s.answers = s.reports.map (fun report => .ok report.2))
    (h : s.answers.head? = some (.ok outcome)) : s.reports.head?.map Prod.snd = some outcome := by
  rw [ha, List.head?_map] at h
  cases hr : s.reports.head? with
  | none => simp [hr] at h
  | some report => simpa [hr] using h

/-- What the reports say about a course that ended without an error. -/
theorem Follows.reports_of_complete (h : c.Follows (outset principal attributes state) k stage)
    {report : FlowReport} (hresult : k.result? = some (.ok (.complete report))) :
    k.situation.reports.map Prod.fst = k.execution.executed ∧
      k.situation.answers = k.situation.reports.map (fun r => .ok r.2) ∧
      (∃ step, k.situation.reports.getLast? = some (step, report.lastOutcome)) ∧
      k.result? = some ((Except.ok report.lastOutcome).map fun outcome =>
        .complete ⟨k.situation.reports.map Prod.fst, outcome⟩) := by
  obtain rfl := Stage.result?_eq_complete_iff.1 (h.result.symm.trans hresult)
  obtain ⟨hx, hans, hexecuted, hlast⟩ := (recount_of_turns h.turns).complete
  refine ⟨hx, hans, hlast, ?_⟩
  rw [hresult, ← hexecuted]
  rfl

/-- An attempt at a flow that declares nothing but a gated entry waits for an
    answer, or has come to what `LimitedLogin` says. -/
theorem Follows.limitedLogin (h : c.Follows (outset principal attributes state) k stage)
    (hs : stage ≠ .ready) (hd : c.definition.GatesEntry gate)
    (hone : c.definition.steps.map StepDescriptor.id = [c.definition.entry])
    (hp : c.definition.entry ≠ gate.proceed) (hr : c.definition.entry ≠ gate.remediation)
    (hl : gate.attributes.get? limitAttribute = some limit.text)
    (ha : ∀ x ∈ k.situation.answers, ∃ outcome, x = .ok outcome) :
    (∃ step, k.result? = some (.ok (.suspended step)) ∧ k.execution.executed.length ≤ 3) ∨
      ∃ result, LimitedLogin limit c.definition.entry gate.proceed gate.remediation
          k.situation.reports (k.situation.readings.map Reading.answer) result ∧
        k.result? = some (result.map fun outcome =>
          .complete ⟨k.situation.reports.map Prod.fst, outcome⟩) ∧
        k.execution.executed = k.situation.reports.map Prod.fst ∧
        k.situation.answers = k.situation.reports.map fun report => .ok report.2 := by
  obtain ⟨r, hresult, hi⟩ := interpret_of_follows h hs
  have hlimits : c.definition.Limits limit := hd.limits hl
  have hv : k.situation.passage.evaluated = true → k.situation.told.verdict ≠ none := by
    intro hev hnone
    obtain ⟨answer, -, hv⟩ := h.exists_reading hlimits hev
    cases hv.symm.trans hnone
  cases FlowDefinition.ending_of_gatesEntry hd hone hp hr ha hv hi with
  | waits hle => exact .inl ⟨_, hresult, hle⟩
  | @stopped outcome report hfirst ho hev hexec =>
    obtain ⟨hx, hans, ⟨step, hlast⟩, hcomplete⟩ := h.reports_of_complete hresult
    have hcounts : k.situation.readings = [] := ((gauge_of_follows h).before hev).2
    refine .inr ⟨.ok report.lastOutcome, ?_, hcomplete, hx.symm, hans⟩
    rw [hcounts]
    exact .of_stopped (hx.trans hexec) (first_of_answers hans hfirst) ho hlast
  | @passed within report hfirst hev hw hexec =>
    obtain ⟨hx, hans, ⟨step, hlast⟩, hcomplete⟩ := h.reports_of_complete hresult
    obtain ⟨answer, hcounts, hverdict⟩ := h.exists_reading hlimits hev
    have hjudged : Reading.verdict ⟨principal, limit, answer⟩ = .ok within :=
      Option.some.inj (hverdict.symm.trans hw)
    refine .inr ⟨.ok report.lastOutcome, ?_, hcomplete, hx.symm, hans⟩
    -- The gate has let pass, so the registry has answered.
    cases answer with
    | error e => cases hjudged
    | ok count =>
      cases hjudged
      rw [hcounts]
      exact .of_passed (hx.trans hexec) (first_of_answers hans hfirst) hlast
  | @refused cause hfirst hev hw hexec =>
    obtain rfl := Stage.result?_eq_error_iff.1 (h.result.symm.trans hresult)
    have hrecount := recount_of_turns h.turns
    have hx : k.situation.reports.map Prod.fst ++ [] = k.execution.executed := hrecount.executed
    have hans : k.situation.answers = k.situation.reports.map (fun report => .ok report.2) ++ [] :=
      hrecount.answers
    rw [List.append_nil] at hx hans
    obtain ⟨answer, hcounts, hverdict⟩ := h.exists_reading hlimits hev
    have hjudged : Reading.verdict ⟨principal, limit, answer⟩ = .error cause :=
      Option.some.inj (hverdict.symm.trans hw)
    -- The limit is always there, so the registry has not answered.
    cases answer with
    | ok count => cases hjudged
    | error e =>
      cases hjudged
      refine .inr ⟨.error (.policy c.definition.entry (.registry e)), ?_, hresult, hx.symm, hans⟩
      rw [hcounts]
      exact .of_refused (hx.trans hexec) (first_of_answers hans hfirst)

/-- The declarations of the built-in flow are accepted. An attempt at it whose
    steps do not end with an error comes to what `LimitedLogin` says, whatever
    else the executor and the registry reply and whichever calls there are,
    unless it still waits for the outcome of a step that was suspended. This is
    over when calls have given three outcomes since the start. -/
theorem course_sessionLimited (limit : SessionLimit) {entry proceed remediation : StepId}
    (hp : entry ≠ proceed) (hr : entry ≠ remediation) (executor : Executor σ)
    (registry : Registry σ) (before after : List Call) (principal : Principal)
    (attributes : Attributes) (state : σ) :
    let c : Controller σ :=
      ⟨.sessionLimited limit entry proceed remediation, executor, registry⟩
    let k := c.course (before ++ .start :: after) (.new principal attributes) state
    let t := c.transcript (before ++ .start :: after) (.new principal attributes) state
    FlowDefinition.ofSteps (FlowDefinition.sessionLimitedSteps limit entry proceed remediation) =
        .ok c.definition ∧
      ((∀ reply ∈ t.replies, ∀ cause, reply.2 ≠ .error cause) →
        (∃ step, k.execution.state = .suspended step ∧
          (t.replies.map Prod.snd).getLast? = some (.ok .suspended) ∧
          (resumes after).length < 3) ∨
        ∃ reports counts result,
          LimitedLogin limit entry proceed remediation reports counts result ∧
          (k.execution.executed = reports.map Prod.fst ∧
            t.replies.map Prod.fst = reports.map Prod.fst) ∧
          comeTo (t.replies.map Prod.snd) k.told = reports.map (fun report => .ok report.2) ∧
          t.counts = counts.map (fun answer => (principal, answer)) ∧
          k.result? = some (result.map fun outcome =>
            .complete ⟨reports.map Prod.fst, outcome⟩) ∧
          match result with
          | .ok outcome => k.execution.state = .complete outcome ∧
            (FlowReport.isAuthenticated ⟨reports.map Prod.fst, outcome⟩ = true ↔
              reports.getLast? = some (proceed, .success))
          | .error _ => k.execution.state = .failed) := by
  intro c k t
  refine ⟨FlowDefinition.ofSteps_steps c.definition, fun hreplies => ?_⟩
  obtain ⟨stage, h, hready⟩ :=
    c.course_turns (before ++ .start :: after) principal attributes state
  have hs : stage ≠ .ready := fun hst => hready.1 hst (by simp)
  obtain ⟨hrequests, hanswers, hcounts⟩ :=
    c.transcript_of_course (before ++ .start :: after) principal attributes state
  have ha : ∀ x ∈ k.situation.answers, ∃ outcome, x = .ok outcome := by
    intro x hx
    cases x with
    | ok outcome => exact ⟨outcome, rfl⟩
    | error cause =>
      -- An error among the answers would be one that the executor replied.
      obtain ⟨reply, hmem, hcause⟩ := List.mem_map.1 (mem_of_mem_comeTo (hanswers ▸ hx))
      exact absurd hcause (hreplies reply hmem cause)
  obtain ⟨step, hresult, hlen⟩ | ⟨result, hlogin, hresult, hexecuted, hcome⟩ :=
    h.limitedLogin hs (FlowDefinition.sessionLimited_gatesEntry limit entry proceed remediation)
      rfl hp hr limit.get?_attributes ha
  · obtain ⟨p, rfl, rfl⟩ := Stage.result?_eq_suspended_iff.1 (h.result.symm.trans hresult)
    exact .inl ⟨p.step, h.agrees.1,
      c.suspended_of_course _ principal attributes state h.agrees.1,
      Nat.lt_of_lt_of_le (c.length_resumes_lt before after principal attributes state h.agrees.1)
        hlen⟩
  · refine .inr ⟨_, _, result, hlogin, ⟨hexecuted, hrequests.trans hexecuted⟩,
      hanswers.trans hcome, ?_, hresult, ?_⟩
    · rw [hcounts, List.map_map]
      exact List.map_congr_left fun r hmem =>
        congrArg (·, r.answer) ((gauge_of_follows h).principal_of_reading hmem)
    · cases result with
      | ok outcome =>
        obtain rfl := Stage.result?_eq_complete_iff.1 (h.result.symm.trans hresult)
        exact ⟨h.agrees, hlogin.isSuccess_iff hp⟩
      | error e =>
        obtain rfl := Stage.result?_eq_error_iff.1 (h.result.symm.trans hresult)
        exact h.agrees.1

end Controller

/-- Room for three sessions. -/
def threeSessions : SessionLimit := ⟨3, by decide, by decide⟩

/-- The built-in flow where the remediation is suspended, all other steps report
    success, and everyone has three sessions. -/
def remedialController : Controller Unit where
  definition := .sessionLimited threeSessions ⟨"1"⟩ ⟨"2"⟩ ⟨"3"⟩
  executor := ⟨fun step attempt s =>
    ⟨.ok (if step = ⟨"3"⟩ then .suspended else .completed .success), attempt.attributes, s⟩⟩
  registry :=
    { count := fun _ s => (.ok 3, s)
      list := fun _ s => (.ok [], s)
      ping := fun s => (.reached, s) }

/-- A login over the limit goes on after the remediation, which fails. -/
theorem authenticated_after_remediation :
    (⟨"1"⟩ : StepId) ≠ ⟨"2"⟩ ∧ (⟨"1"⟩ : StepId) ≠ ⟨"3"⟩ ∧
      let k := remedialController.course [.start, .resume .failure] (.new alice) ()
      let t := remedialController.transcript [.start, .resume .failure] (.new alice) ()
      (∀ reply ∈ t.replies, ∀ cause, reply.2 ≠ .error cause) ∧
        ∃ reports counts result,
          LimitedLogin threeSessions ⟨"1"⟩ ⟨"2"⟩ ⟨"3"⟩ reports counts result ∧
          reports.map Prod.fst = [⟨"1"⟩, ⟨"3"⟩, ⟨"2"⟩] ∧
          k.result? = some (result.map fun outcome =>
            .complete ⟨[⟨"1"⟩, ⟨"3"⟩, ⟨"2"⟩], outcome⟩) := by
  have hp : (⟨"1"⟩ : StepId) ≠ ⟨"2"⟩ := by decide
  have hr : (⟨"1"⟩ : StepId) ≠ ⟨"3"⟩ := by decide
  refine ⟨hp, hr, ?_⟩
  intro k t
  have ht : t.replies = [(⟨"1"⟩, .ok (.completed .success)), (⟨"3"⟩, .ok .suspended),
    (⟨"2"⟩, .ok (.completed .success))] := rfl
  have hreplies : ∀ reply ∈ t.replies, ∀ cause, reply.2 ≠ .error cause := by simp [ht]
  refine ⟨hreplies, ?_⟩
  obtain ⟨step, hstate, -⟩ | ⟨reports, counts, result, hlogin, ⟨hexecuted, -⟩, -, -, hresult, -⟩ :=
    (Controller.course_sessionLimited threeSessions hp hr remedialController.executor
      remedialController.registry [] [.resume .failure] alice .empty ()).2 hreplies
  · cases hstate
  · have hx : reports.map Prod.fst = [⟨"1"⟩, ⟨"3"⟩, ⟨"2"⟩] := hexecuted.symm
    rw [hx] at hresult
    exact ⟨reports, counts, result, hlogin, hx, hresult⟩

end LoginGate
