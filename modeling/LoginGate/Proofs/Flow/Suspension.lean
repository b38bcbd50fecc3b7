import LoginGate.Proofs.Flow.Recording

/-!
# Suspension makes no difference

A worker does the work of steps at once, whatever the state of the flow is that
it works for. An executor that has a worker may report what the work came to, or
suspend the step and leave the report to the surroundings. If they resume the
attempt with what the work came to as soon as it is suspended, nothing about it
is different in the end, whichever steps were suspended.

* `converges_run`: the simulation, by induction on the steps that are left;
* `course_deferring`: what it says about a course.
-/

namespace LoginGate

variable {σ : Type}

/-- Someone who does the work of steps on a state `σ`, and may change the
    attributes of the attempt. -/
structure Worker (σ : Type) where
  /-- Does the work of a step. -/
  work : StepId → Attempt → σ → Except StepError Outcome × Attributes × σ

/-- The attempt as it is seen by those who do not look at the state of the
    flow. -/
def Attempt.unstated (a : Attempt) : Attempt :=
  { a with execution := { a.execution with state := .notStarted } }

/-- The executor that has a worker, and suspends the steps with the numbers
    `later` if their work comes to an outcome. -/
def Worker.executor (w : Worker σ) (later : Nat → Bool) : Executor σ where
  execute step attempt s :=
    let r := w.work step attempt.unstated s
    let result := match r.1 with
      | .error cause => .error cause
      | .ok outcome =>
        .ok (if later attempt.execution.executed.length then .suspended else .completed outcome)
    ⟨result, r.2.1, r.2.2⟩

/-- The controller with that executor. -/
def Worker.controller (w : Worker σ) (d : FlowDefinition) (r : Registry σ) (later : Nat → Bool) :
    Controller σ := ⟨d, w.executor later, r⟩

/-- The outcomes of steps with the numbers `later`, where the first one has the
    number `n`. -/
def chosen (later : Nat → Bool) : Nat → List Outcome → List Outcome
  | _, [] => []
  | n, outcome :: rest =>
    if later n then outcome :: chosen later (n + 1) rest else chosen later (n + 1) rest

namespace FlowEvent

/-- Whether the event is the suspension of a step. -/
def isSuspension : FlowEvent → Bool
  | .suspended _ => true
  | _ => false

/-- The events except the suspensions of steps. -/
def seamless (events : List FlowEvent) : List FlowEvent := events.filter fun e => !e.isSuspension

theorem seamless_append {e : FlowEvent} (h : e.isSuspension = false) (events : List FlowEvent) :
    seamless (events ++ [e]) = seamless events ++ [e] := by
  simp [seamless, h]

theorem seamless_counted (events : List FlowEvent) (readings : List Reading) :
    seamless (events ++ readings.map .counted) = seamless events ++ readings.map .counted := by
  rw [seamless, seamless, List.filter_append]
  refine congrArg _ (List.filter_eq_self.2 fun e he => ?_)
  obtain ⟨reading, -, rfl⟩ := List.mem_map.1 he
  rfl

/-- Where suspensions are not shown, all is shown without them. -/
theorem filterMap_seamless {α : Type} {f : FlowEvent → Option α}
    (hf : ∀ step, f (.suspended step) = none) (events : List FlowEvent) :
    (seamless events).filterMap f = events.filterMap f := by
  induction events with
  | nil => rfl
  | cons e events ih =>
    cases e with
    | suspended step =>
      rw [List.filterMap_cons_none (hf step), ← ih]
      rfl
    | executing | reported | counted | decided | failed =>
      rw [seamless, List.filter_cons_of_pos rfl, List.filterMap_cons, List.filterMap_cons, ← ih]
      rfl

end FlowEvent

namespace Situation

/-- The situation without the suspensions so far. -/
def seamless (s : Situation σ) : Situation σ := { s with events := FlowEvent.seamless s.events }

/-- The situation as it would be if no step had ever been suspended. -/
def plain (s : Situation σ) : Situation σ := { s.seamless with attempt := s.attempt.unstated }

variable (s : Situation σ)

theorem plain_report (step : StepId) (outcome : Outcome) :
    (s.report step outcome).plain = s.plain.report step outcome :=
  congrArg (Situation.mk _ _) (FlowEvent.seamless_append rfl _)

theorem plain_note {e : FlowEvent} (h : e.isSuspension = false) :
    (s.note e).plain = s.plain.note e :=
  congrArg (Situation.mk _ _) (FlowEvent.seamless_append h _)

theorem plain_wake_suspend {p : Pending} (h : s.attempt.execution.suspendedOrigin = none) :
    (s.suspend p).wake.plain = s.plain := by
  have hevents : FlowEvent.seamless (s.events ++ [.suspended p.step]) =
      FlowEvent.seamless s.events := by
    simp [FlowEvent.seamless, FlowEvent.isSuspension]
  -- Nothing but the state of the flow and the saved origin was written.
  obtain ⟨⟨principal, attributes, ⟨executed, pending, origin, last, evaluated, state⟩⟩, t,
    events⟩ := s
  obtain rfl : origin = none := h
  exact congrArg (Situation.mk _ _) hevents

theorem plain_outcomes : s.plain.outcomes = s.outcomes :=
  FlowEvent.filterMap_seamless (fun _ => rfl) s.events

theorem seamless_fail (e : FlowError) : (s.fail e).seamless = s.plain.fail e :=
  congrArg (Situation.mk _ _) (FlowEvent.seamless_append rfl _)

end Situation

namespace Controller

variable {w : Worker σ} {d : FlowDefinition} {r : Registry σ}

theorem alike_plain (later : Nat → Bool) :
    (w.controller d r later).Alike (w.controller d r fun _ => false) .plain where
  definition := rfl
  pending _ := rfl
  evaluated _ := rfl
  withPending _ _ := rfl
  report s step outcome := s.plain_report step outcome
  decide s _ := s.plain_note rfl
  result _ _ := rfl
  read _ _ := congrArg (Situation.mk _ _) (FlowEvent.seamless_counted _ _)

variable {later : Nat → Bool}

/-- Executing a step comes to the same, apart from whether it is suspended. -/
theorem plain_executed (s : Situation σ) (p : Pending) (rest : List Pending) :
    ((w.controller d r later).executed s p rest).plain =
      (w.controller d r fun _ => false).executed s.plain p rest :=
  congrArg (Situation.mk _ _) (FlowEvent.seamless_append rfl _)

theorem reply_deferring (s : Situation σ) (p : Pending) (rest : List Pending) :
    ((w.controller d r later).reply s p rest).result =
      match (w.work p.step (s.take p.step rest).attempt.unstated s.state).1 with
      | .error cause => .error cause
      | .ok outcome =>
        .ok (if later (s.attempt.execution.executed.length + 1) then .suspended
          else .completed outcome) := by
  have hlen : (s.take p.step rest).attempt.execution.executed.length =
      s.attempt.execution.executed.length + 1 := List.length_append
  rw [← hlen]
  rfl

theorem reply_plain (s : Situation σ) (p : Pending) (rest : List Pending) :
    ((w.controller d r fun _ => false).reply s.plain p rest).result =
      match (w.work p.step (s.take p.step rest).attempt.unstated s.state).1 with
      | .error cause => .error cause
      | .ok outcome => .ok (.completed outcome) := rfl

/-- Resuming the attempt with outcomes, one after another, leads from what a call
    returned to what the last one returned. -/
inductive Resumes (c : Controller σ) : Except FlowError Progress × Situation σ → List Outcome →
    Except FlowError Progress × Situation σ → Prop
  | done {r : Except FlowError Progress × Situation σ} : Resumes c r [] r
  | more {step : StepId} {s : Situation σ} {outcome : Outcome} {rest : List Outcome}
    {last : Except FlowError Progress × Situation σ} :
    isRefused (c.resumeIn outcome s).1 = false → Resumes c (c.resumeIn outcome s) rest last →
    Resumes c (.ok (.suspended step), s) (outcome :: rest) last

/-- A call of a controller that suspends steps returned `r'`, and one of a
    controller that does not returned `r`, with outcomes reported after those
    `before`, the first of them by the step with the number `n`. The former
    comes to the latter when the attempt is resumed with the outcomes chosen. -/
structure Converges (c : Controller σ) (later : Nat → Bool) (before : List Outcome) (n : Nat)
    (r' r : Except FlowError Progress × Situation σ) : Prop where
  /-- The former ends like the latter, apart from the suspensions among its events. -/
  converges : ∃ outcomes last, r.2.outcomes = before ++ outcomes ∧
    c.Resumes r' (chosen later n outcomes) last ∧ r = (last.1, last.2.seamless)

variable {c : Controller σ} {before : List Outcome} {n : Nat} {outcome : Outcome}
  {r' r₀ : Except FlowError Progress × Situation σ}

/-- The step with the number `n` is not suspended. -/
theorem Converges.now (outcome : Outcome)
    (h : c.Converges later (before ++ [outcome]) (n + 1) r' r₀) (hn : later n = false) :
    c.Converges later before n r' r₀ := by
  obtain ⟨outcomes, last, ho, hr, hl⟩ := h.converges
  refine ⟨outcome :: outcomes, last, ?_, ?_, hl⟩
  · rw [ho, List.append_assoc]
    rfl
  · rw [chosen, hn]
    exact hr

/-- The step with the number `n` is suspended, and the attempt is resumed. -/
theorem Converges.suspended {step : StepId} {s : Situation σ} (outcome : Outcome)
    (h : c.Converges later (before ++ [outcome]) (n + 1) (c.resumeIn outcome s) r₀)
    (hn : later n = true) (hr : isRefused (c.resumeIn outcome s).1 = false) :
    c.Converges later before n (.ok (.suspended step), s) r₀ := by
  obtain ⟨outcomes, last, ho, hrest, hl⟩ := h.converges
  refine ⟨outcome :: outcomes, last, ?_, ?_, hl⟩
  · rw [ho, List.append_assoc]
    rfl
  · rw [chosen, hn]
    exact .more hr hrest

theorem converges_error (e : FlowError) (s : Situation σ) :
    c.Converges later s.outcomes n (settle (.error e, s)) (settle (.error e, s.plain)) := by
  have ho : (s.plain.fail e).outcomes = s.outcomes := by
    rw [← s.plain_outcomes]
    simp [Situation.outcomes, FlowEvent.outcome?]
  refine ⟨[], settle (.error e, s), ?_, .done, ?_⟩
  · rw [List.append_nil]
    exact ho
  · exact congrArg (Prod.mk _) (s.seamless_fail e).symm

theorem converges_conclude (s : Situation σ) :
    c.Converges later s.outcomes n (settle (conclude s)) (settle (conclude s.plain)) := by
  refine ⟨[], settle (conclude s), ?_, .done, rfl⟩
  rw [List.append_nil]
  exact s.plain_outcomes

theorem Ensues.outcomes_eq {p : Pending} {s : Situation σ} {m : Moment σ}
    (h : c.Ensues p outcome s m) : m.situation.outcomes = s.outcomes ++ [outcome] := by
  cases h <;> simp [Situation.outcomes, FlowEvent.outcome?]

/-- What follows an outcome converges if the rest of the attempt does. -/
theorem converges_onOutcome {p : Pending} {s : Situation σ}
    {next next' : Situation σ → Except FlowError Progress × Situation σ}
    (h : ∀ s', (w.controller d r later).Ensues p outcome s ⟨.going, s'⟩ →
      (w.controller d r later).Converges later s'.outcomes n (settle (next' s'))
        (settle (next s'.plain))) :
    (w.controller d r later).Converges later (s.outcomes ++ [outcome]) n
      (settle (match (w.controller d r later).onOutcome p.step p.origin outcome s with
        | (.error e, s') => (.error e, s')
        | (.ok (), s') => next' s'))
      (settle
        (match (w.controller d r fun _ => false).onOutcome p.step p.origin outcome s.plain with
        | (.error e, s') => (.error e, s')
        | (.ok (), s') => next s')) := by
  -- Both controllers do the same about an outcome, as they are alike.
  have he := (w.controller d r later).ensues_onOutcome p outcome s
  rw [(alike_plain later).onOutcome]
  generalize (w.controller d r later).onOutcome p.step p.origin outcome s = result at he ⊢
  obtain ⟨e | _, s'⟩ := result
  · have ho : s'.outcomes = s.outcomes ++ [outcome] := by
      have ho := he.outcomes_eq
      simpa [momentAfter, Situation.outcomes, FlowEvent.outcome?] using ho
    rw [← ho]
    exact converges_error e s'
  · have ho : s'.outcomes = s.outcomes ++ [outcome] := he.outcomes_eq
    rw [← ho]
    exact h s' he

/-- The same for an outcome that the attempt is resumed with: it goes on from a
    situation that shows no other trace of the suspension than its event. -/
theorem converges_resumeIn {p : Pending} {s : Situation σ}
    {next : Situation σ → Except FlowError Progress × Situation σ}
    (ho : s.attempt.execution.suspendedOrigin = none)
    (h : ∀ s', (w.controller d r later).Ensues p outcome (s.suspend p).wake ⟨.going, s'⟩ →
      (w.controller d r later).Converges later s'.outcomes n
        (settle ((w.controller d r later).proceed s')) (settle (next s'.plain))) :
    (w.controller d r later).Converges later (s.outcomes ++ [outcome]) n
      ((w.controller d r later).resumeIn outcome (s.suspend p))
      (settle
        (match (w.controller d r fun _ => false).onOutcome p.step p.origin outcome s.plain with
        | (.error e, s') => (.error e, s')
        | (.ok (), s') => next s')) := by
  have hout : (s.suspend p).wake.outcomes = s.outcomes := by
    simp [Situation.outcomes, FlowEvent.outcome?]
  rw [← s.plain_wake_suspend (p := p) ho, ← hout]
  exact converges_onOutcome h

/-- The simulation: by induction on the steps that an attempt may still execute,
    its runs with and without suspensions converge. -/
theorem converges_run {budget : Nat} {s : Situation σ}
    (hb : budget = maxSteps - s.attempt.execution.executed.length)
    (ho : s.attempt.execution.suspendedOrigin = none) :
    (w.controller d r later).Converges later s.outcomes (s.attempt.execution.executed.length + 1)
      (settle ((w.controller d r later).run budget s))
      (settle ((w.controller d r fun _ => false).run budget s.plain)) := by
  induction budget, s using run_induction with
  | done budget s hp =>
    rw [run_nil hp, run_nil (s := s.plain) hp]
    exact converges_conclude s
  | exhausted s p rest hp =>
    rw [run_zero hp, run_zero (s := s.plain) hp]
    exact converges_error _ (s.withPending rest)
  | step budget s p rest hp ih =>
    have hx : ((w.controller d r later).executed s p rest).plain =
      (w.controller d r fun _ => false).executed s.plain p rest := plain_executed s p rest
    have hlen : ((w.controller d r later).executed s p rest).attempt.execution.executed.length =
        s.attempt.execution.executed.length + 1 := List.length_append
    have hout : ((w.controller d r later).executed s p rest).outcomes = s.outcomes := by
      simp [executed, Situation.outcomes, FlowEvent.outcome?]
    rw [run_succ hp, run_succ (s := s.plain) hp, reply_plain, ← hx, reply_deferring]
    cases (w.work p.step (s.take p.step rest).attempt.unstated s.state).1 with
    | error cause =>
      rw [← hout]
      exact converges_error _ _
    | ok outcome =>
      dsimp only
      cases hl : later (s.attempt.execution.executed.length + 1) with
      | false =>
        -- Both controllers follow the outcome at once.
        refine Converges.now outcome ?_ hl
        rw [← hout]
        refine converges_onOutcome fun s' he => ?_
        have hn : s'.attempt.execution.executed.length =
            s.attempt.execution.executed.length + 1 :=
          (congrArg List.length he.executed_eq).trans hlen
        rw [← hn]
        exact ih s' (by omega) (he.suspendedOrigin_eq.trans ho)
      | true =>
        -- The one controller returns. When it is called again, the steps that it
        -- may still execute are counted anew, and they are as many.
        refine Converges.suspended outcome ?_ hl ?_
        · rw [← hout]
          refine converges_resumeIn ho fun s' he => ?_
          have hn : s'.attempt.execution.executed.length =
              s.attempt.execution.executed.length + 1 :=
            (congrArg List.length he.executed_eq).trans hlen
          have hb' : budget = maxSteps - s'.attempt.execution.executed.length := by omega
          rw [proceed, ← hb', ← hn]
          exact ih s' hb' he.suspendedOrigin_eq
        · obtain ⟨stage, hreach⟩ := resumeIn_turns (c := w.controller d r later)
            (s := ((w.controller d r later).executed s p rest).suspend p) outcome rfl
          exact hreach.not_refused

theorem converges_startIn (principal : Principal) (attributes : Attributes) (state : σ) :
    (w.controller d r later).Converges later [] 1
      ((w.controller d r later).startIn ⟨.new principal attributes, state, []⟩)
      ((w.controller d r fun _ => false).startIn ⟨.new principal attributes, state, []⟩) := by
  have h : (w.controller d r later).Converges later _ _ _ _ := converges_run
    (s := Situation.withPending ⟨.new principal attributes, state, []⟩ [⟨d.entry, .declared⟩])
    rfl rfl
  exact h

/-! ### Courses -/

/-- The last call of a course returned `r`, and all calls before it returned a
    suspension. -/
structure Returned (k : Course σ) (r : Except FlowError Progress × Situation σ) : Prop where
  /-- The situation is the one that the last call left. -/
  situation : k.situation = r.2
  /-- The last call was accepted. -/
  result : k.result? = some r.1
  /-- The calls before it were suspended. -/
  calls : ∃ before call, k.calls = before ++ [(call, r.1)] ∧
    ∀ x ∈ before, ∃ step, x.2 = .ok (.suspended step)

theorem returned_of_resumes {r last : Except FlowError Progress × Situation σ}
    {outcomes : List Outcome} (h : c.Resumes r outcomes last) {k : Course σ} (hk : Returned k r) :
    Returned ((outcomes.map Call.resume).foldl c.extend k) last := by
  induction h generalizing k with
  | done => exact hk
  | @more step s outcome rest last haccepted _ ih =>
    have hs : k.situation = s := hk.situation
    have hp : c.perform (.resume outcome) k.situation = c.resumeIn outcome s := congrArg _ hs
    refine ih ⟨congrArg Prod.snd hp, ?_, ?_⟩
    · rw [result?_extend, hp, haccepted]
      rfl
    · obtain ⟨before, call, hcalls, hbefore⟩ := hk.calls
      refine ⟨k.calls, .resume outcome, ?_, ?_⟩
      · rw [extend, hp]
      · intro x hx
        rw [hcalls, List.mem_append, List.mem_singleton] at hx
        rcases hx with hx | rfl
        · exact hbefore x hx
        · exact ⟨step, rfl⟩

theorem returned_start (c : Controller σ) (principal : Principal) (attributes : Attributes)
    (state : σ) :
    Returned (c.extend ⟨⟨.new principal attributes, state, []⟩, []⟩ .start)
      (c.startIn ⟨.new principal attributes, state, []⟩) := by
  obtain ⟨stage, hr⟩ := c.startIn_turns (s := ⟨.new principal attributes, state, []⟩) rfl
  refine ⟨rfl, ?_, [], .start, rfl, nofun⟩
  have hn : isRefused (c.perform .start ⟨.new principal attributes, state, []⟩).1 = false :=
    hr.not_refused
  rw [result?_extend, hn]
  rfl

/-- Whichever steps are suspended, if the attempt is resumed with what their work
    came to, it executes the same steps and comes to the same result, state and
    attributes as if none was, with the same events apart from the suspensions
    and the same calls of the registry. -/
theorem course_deferring (w : Worker σ) (d : FlowDefinition) (r : Registry σ) (later : Nat → Bool)
    (principal : Principal) (attributes : Attributes) (state : σ) :
    let c := w.controller d r fun _ => false
    let k := c.course [.start] (.new principal attributes) state
    let t := c.transcript [.start] (.new principal attributes) state
    let c' := w.controller d r later
    let calls := .start :: (chosen later 1 k.situation.outcomes).map .resume
    let k' := c'.course calls (.new principal attributes) state
    let t' := c'.transcript calls (.new principal attributes) state
    (∀ x ∈ k'.calls.dropLast, ∃ step, x.2 = .ok (.suspended step)) ∧
      k'.result? = k.result? ∧ k'.situation.attempt = k.situation.attempt ∧
      k'.situation.state = k.situation.state ∧
      FlowEvent.seamless k'.situation.events = k.situation.events ∧
      k'.situation.diagnostics = k.situation.diagnostics ∧ t'.counts = t.counts := by
  intro c k t c' calls k' t'
  have hk : Returned k (c.startIn ⟨.new principal attributes, state, []⟩) :=
    returned_start c principal attributes state
  have hstart : c'.Converges later [] 1 (c'.startIn ⟨.new principal attributes, state, []⟩)
      (c.startIn ⟨.new principal attributes, state, []⟩) :=
    converges_startIn principal attributes state
  -- The outcomes that were reported without suspensions are those to choose from.
  obtain ⟨outcomes, last, hout, hr, hl⟩ := hstart.converges
  have hout' : k.situation.outcomes = outcomes := by
    rw [hk.situation, hout, List.nil_append]
  have hk' : Returned k' last := by
    rw [← hout'] at hr
    exact returned_of_resumes hr (returned_start c' principal attributes state)
  have hs : k.situation = k'.situation.seamless := by
    rw [hk.situation, hl, hk'.situation]
  refine ⟨fun x hx => ?_, ?_, ?_, ?_, ?_, ?_, ?_⟩
  · obtain ⟨before, call, hcalls, hbefore⟩ := hk'.calls
    rw [hcalls, List.dropLast_concat] at hx
    exact hbefore x hx
  · rw [hk.result, hk'.result, hl]
  · rw [hs]
    rfl
  · rw [hs]
    rfl
  · rw [hs]
    rfl
  · rw [hs]
    exact (FlowEvent.filterMap_seamless (fun _ => rfl) _).symm
  · have hreadings : k.situation.readings = k'.situation.readings := by
      rw [hs]
      exact FlowEvent.filterMap_seamless (fun _ => rfl) _
    rw [(c.transcript_of_course [.start] principal attributes state).2.2,
      (c'.transcript_of_course calls principal attributes state).2.2]
    exact congrArg _ hreadings.symm

end Controller

end LoginGate
