import LoginGate.Proofs.Flow.Termination
import LoginGate.Proofs.Flow.Verdict

/-!
# Failures

An attempt fails when a step cannot be executed, when the flow or the gate makes
it fail after a step, or when another step is due after as many as it executes.
Nothing happens between the event that makes it fail and the end of the call,
and nothing after it: every call that comes later is refused.

* `Situation.Causes`: what has just happened when an attempt fails;
* `Turn.causes`: an attempt fails only in such a situation;
* `failure_is_final`: what follows for the calls of an attempt.
-/

namespace LoginGate

/-- What an error is about has just happened in the situation `s`. Except where
    another step is due, it is about the step that was executed last. -/
inductive Situation.Causes {σ : Type} (s : Situation σ) (d : FlowDefinition) : FlowError → Prop
  /-- The step has arrived at the gate, where the attributes hold no limit. -/
  | unlimited {before : List FlowEvent} {step : StepId} {outcome : Outcome}
    {gate : SessionLimitGate} {cause : LimitError} :
    s.attempt.execution.executed.getLast? = some step →
    d.continuation? step outcome = some (.sessionLimitGate gate) →
    s.events = before ++ [.reported step outcome] →
    SessionLimit.parse (s.attempt.attributes.get? limitAttribute) = .error cause →
    Causes s d (.policy step (.invalidLimit cause))
  /-- The step has arrived at the gate, and the registry has no count. -/
  | outage {before : List FlowEvent} {step : StepId} {outcome : Outcome}
    {gate : SessionLimitGate} {reading : Reading} {cause : RegistryError} :
    s.attempt.execution.executed.getLast? = some step →
    d.continuation? step outcome = some (.sessionLimitGate gate) →
    s.events = before ++ [.reported step outcome, .counted reading] →
    reading.answer = .error cause → Causes s d (.policy step (.registry cause))
  /-- The executor was asked for the step. -/
  | crash {before : List FlowEvent} {step : StepId} {cause : StepError} :
    s.attempt.execution.executed.getLast? = some step →
    s.events = before ++ [.executing step] → Causes s d (.step step cause)
  /-- The step has reported an outcome that the flow does not allow. -/
  | route {before : List FlowEvent} {step : StepId} {outcome : Outcome} {reason : Option String} :
    s.attempt.execution.executed.getLast? = some step →
    d.continuation? step outcome = some (.fail reason) →
    s.events = before ++ [.reported step outcome] →
    Causes s d (.routed step (reason.getD ("outcome " ++ outcome.name)))
  /-- The step has arrived at the gate, which was visited before. -/
  | again {before : List FlowEvent} {step : StepId} {outcome : Outcome}
    {gate : SessionLimitGate} :
    s.attempt.execution.executed.getLast? = some step →
    d.continuation? step outcome = some (.sessionLimitGate gate) →
    s.attempt.execution.evaluated = true →
    s.events = before ++ [.reported step outcome] → Causes s d (.alreadyEvaluated step)
  /-- As many steps are executed as an attempt executes, and the step is next. -/
  | exceed {p : Pending} {rest : List Pending} :
    s.attempt.execution.executed.length = maxSteps →
    s.attempt.execution.pending = p :: rest → Causes s d (.stepLimitExceeded p.step)

namespace Controller

variable {σ : Type} {c : Controller σ} {told : Option Outcome}

/-! ### What makes an attempt fail -/

theorem Executes.events_eq {s s' : Situation σ} {p : Pending} {r : Except StepError StepStatus}
    (h : c.Executes s p r s') : s'.events = s.events ++ [.executing p.step] := by
  cases h with
  | mk => rfl

/-- While an outcome is followed, an attempt fails for the step that reported it. -/
theorem Ensues.causes {p : Pending} {outcome : Outcome} {s s' : Situation σ} {e : FlowError}
    (h : c.Ensues p outcome s ⟨.over (.error e), s'⟩)
    (hlast : s.attempt.execution.executed.getLast? = some p.step) :
    ∃ s₀ : Situation σ, s₀.Causes c.definition e ∧ s' = s₀.fail e := by
  cases h with
  | again hk he => exact ⟨s.report p.step outcome, .again hlast hk he rfl, rfl⟩
  | @refuse gate cause hk he hr =>
    have hevents : (((s.report p.step outcome).enterGate gate).read
        (c.evaluationAt gate (s.report p.step outcome))).events =
          s.events ++ [.reported p.step outcome] ++
            (c.evaluationAt gate (s.report p.step outcome)).reading.toList.map .counted := rfl
    refine ⟨_, ?_, rfl⟩
    obtain ⟨cause, rfl, hread, hlimit⟩ | ⟨cause, r, rfl, hread, hanswer⟩ := reading_of_error hr
    · rw [hread, Option.toList_none, List.map_nil, List.append_nil] at hevents
      exact .unlimited hlast hk hevents hlimit
    · rw [hread, Option.toList_some, List.map_singleton, List.append_assoc] at hevents
      exact .outage hlast hk hevents hanswer
  | route hk => exact ⟨s.report p.step outcome, .route hlast hk rfl, rfl⟩

/-- An attempt fails only where what the error is about has just happened, and
    nothing happens any more. It fails for another step in the situation in which
    the turn begins. -/
theorem Turn.causes {m : Moment σ} {s' : Situation σ} {e : FlowError}
    (h : c.Turn told m ⟨.over (.error e), s'⟩) (hm : m.Recounted)
    (hle : m.execution.executed.length ≤ maxSteps) :
    ∃ s : Situation σ, s.Causes c.definition e ∧ s' = s.fail e ∧
      ∀ step, e = .stepLimitExceeded step → told = none ∧ m = ⟨.going, s⟩ := by
  cases h with
  | follow hr he =>
    obtain ⟨s, hs, hfail⟩ := he.causes (hr.getLast?_executed hm)
    refine ⟨s, hs, hfail, fun step hstep => ?_⟩
    subst hstep
    cases he
  | @crash _ s _ cause hx =>
    refine ⟨s, .crash ?_ hx.events_eq, rfl, nofun⟩
    rw [← (hx.recount hm).1, List.getLast?_concat]
  | exceed hp hlen =>
    exact ⟨_, .exceed (Nat.le_antisymm hle hlen) hp, rfl, fun _ _ => ⟨rfl, rfl⟩⟩

/-! ### Courses -/

/-- A call that fails leaves the attempt as it was when it failed. If it fails for
    another step, that is where its turns have filled it with steps. -/
theorem Follows.causes {principal : Principal} {attributes : Attributes} {state : σ}
    {k : Course σ} {e : FlowError}
    (h : c.Follows (outset principal attributes state) k (.over (.error e))) :
    ∃ s : Situation σ, s.Causes c.definition e ∧ k.situation = s.fail e ∧
      ∀ step, e = .stepLimitExceeded step → c.Fills (outset principal attributes state) k s := by
  obtain ⟨-, hm⟩ | ⟨before, o, m, hbefore, hlast, htold⟩ := h.turns.last
  · cases congrArg Moment.stage hm
  · have hle : m.execution.executed.length ≤ maxSteps :=
      (Occurs.between hbefore).length_executed_le rfl
    obtain ⟨s, hs, hfail, hexceed⟩ := hlast.causes (recount_of_turns hbefore) hle
    refine ⟨s, hs, hfail, fun step hstep => ?_⟩
    obtain ⟨rfl, rfl⟩ := hexceed step hstep
    rw [Option.toList_none, List.append_nil] at htold
    refine ⟨by simp [h.result, Stage.result?], htold ▸ hbefore, ?_⟩
    subst hstep
    cases hs with
    | exceed hfull => exact hfull

/-- A call that fails, and is not refused, brings the attempt to its end. -/
theorem Follows.of_error {first : Moment σ} {k : Course σ} {call : Call} {stage : Stage}
    (h : c.Follows first (c.extend k call) stage) {e : FlowError}
    (he : (c.perform call k.situation).1 = .error e) (hrefusal : e.isRefusal = false) :
    stage = .over (.error e) := by
  have hresult : (c.extend k call).result? = some (.error e) := by
    rw [result?_extend, he, if_neg (by simp [isRefused, hrefusal])]
  exact Stage.result?_eq_error_iff.1 (h.result.symm.trans hresult)

variable {result : Except FlowError FlowReport} {calls : List Call} {attempt : Attempt} {state : σ}

theorem situation_of_over
    (h : (Stage.over result).Agrees (c.course calls attempt state).execution) (later : List Call) :
    (c.course (calls ++ later) attempt state).situation =
      (c.course calls attempt state).situation := by
  rw [course_append]
  exact foldl_of_over h later

/-- When an attempt is over, nobody is asked any more. -/
theorem transcript_of_over
    (h : (Stage.over result).Agrees (c.course calls attempt state).execution) (later : List Call) :
    c.transcript (calls ++ later) attempt state = c.transcript calls attempt state := by
  have hexecution : (c.recording.course calls attempt (state, {})).execution =
      (c.course calls attempt state).execution :=
    congrArg Course.execution (c.forget_recording calls attempt state {})
  have hover : (Stage.over result).Agrees
      (c.recording.course calls attempt (state, {})).execution := hexecution ▸ h
  rw [transcript, situation_of_over hover, transcript]

/-- A call that fails, and is not refused, ends the attempt in the situation
    that makes it fail, and no later call changes anything, asks the executor or
    the registry, or is not refused. If another step makes it fail, then that step
    is the next one that waits where as many steps as possible are executed. A call
    that is refused changes nothing, in any situation, and asks nobody. -/
theorem failure_is_final (c : Controller σ) (calls : List Call) (call : Call)
    (principal : Principal) (attributes : Attributes) (state : σ) :
    let attempt := Attempt.new principal attributes
    let r := c.perform call (c.course calls attempt state).situation
    let t := c.transcript (calls ++ [call]) attempt state
    let k := c.course (calls ++ [call]) attempt state
    (∀ e, r.1 = .error e → e.isRefusal = false →
      (r.2.attempt.execution.state = .failed ∧ r.2.attempt.execution.pending = []) ∧
      (∃ s : Situation σ, s.Causes c.definition e ∧ r.2 = s.fail e ∧
        ∀ step, e = .stepLimitExceeded step →
          c.Fills (outset principal attributes state) k s) ∧
      (t.replies.map Prod.fst = r.2.attempt.execution.executed ∧
        t.counts = r.2.readings.map fun reading => (reading.principal, reading.answer)) ∧
      ∀ later, (c.course (calls ++ call :: later) attempt state).situation = r.2 ∧
        c.transcript (calls ++ call :: later) attempt state = t ∧
        ∀ call', c.perform call' r.2 = (.error call'.refusal, r.2)) ∧
    (∀ (s : Situation σ) e, (c.perform call s).1 = .error e → e.isRefusal = true →
      (c.perform call s).2 = s) ∧
    ∀ (s : Situation (σ × Transcript)) e, (c.recording.perform call s).1 = .error e →
      e.isRefusal = true → (c.recording.perform call s).2 = s := by
  intro attempt r t k
  refine ⟨fun e he hrefusal => ?_, fun s e he hrefusal => ?_, fun s e he hrefusal => ?_⟩
  · have hcourse : c.course (calls ++ [call]) attempt state =
        c.extend (c.course calls attempt state) call := course_append ..
    obtain ⟨stage, h, -⟩ := c.course_turns (calls ++ [call]) principal attributes state
    obtain rfl := (hcourse ▸ h).of_error he hrefusal
    have hsituation : (c.course (calls ++ [call]) attempt state).situation = r.2 := by
      rw [hcourse]
      rfl
    have hagrees : (Stage.over (.error e)).Agrees r.2.attempt.execution := hsituation ▸ h.agrees
    obtain ⟨s, hs, hfail, hexceed⟩ := h.causes
    have hqueue := h.turns.keeps (fun _ _ _ => order_of_turn) rfl
    obtain ⟨hreplies, -, hcounts⟩ := c.transcript_of_course (calls ++ [call]) principal attributes
      state
    refine ⟨⟨hagrees.1, hsituation ▸ hqueue⟩, ⟨s, hs, hsituation.symm.trans hfail, hexceed⟩,
      ⟨hsituation ▸ hreplies, hsituation ▸ hcounts⟩, fun later => ⟨?_, ?_, fun call' => ?_⟩⟩
    · rw [List.append_cons, situation_of_over h.agrees, hsituation]
    · rw [List.append_cons]
      exact transcript_of_over h.agrees later
    · exact c.perform_of_not_admits (Execution.not_admits_of_over hagrees call')
  · exact situation_of_refused (he ▸ hrefusal)
  · exact situation_of_refused (he ▸ hrefusal)

end Controller

end LoginGate
