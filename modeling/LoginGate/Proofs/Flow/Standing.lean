import LoginGate.Proofs.Flow.Recording
import LoginGate.Proofs.Flow.Report
import Mathlib.Logic.ExistsUnique

/-!
# Where an attempt stands between two calls

An attempt is fresh, suspended, complete or failed, and what its execution holds
is determined by that as far as it bears on the calls to come: what waits, how
the step that it waits for came to be executed, and which outcome was the last.

* `origin_of_turn`: an origin is saved while an attempt is suspended, and at no
  other time;
* `unique_standing`: after any calls, exactly one of the four is the case.
-/

namespace LoginGate

/-- Where an attempt can stand between two calls. -/
inductive Standing where
  /-- It is not started. -/
  | fresh
  /-- It waits for the outcome of a step. -/
  | suspended
  /-- It ended with an outcome. -/
  | complete
  /-- It ended with an error. -/
  | failed
deriving DecidableEq, Repr

/-- The attempt of a course has a standing, and its execution and the result of
    the course are as they are then. -/
def Course.Stands {σ : Type} (k : Course σ) : Standing → Prop
  | .fresh =>
    k.execution.state = .notStarted ∧ k.execution.executed = [] ∧ k.execution.pending = [] ∧
      k.execution.suspendedOrigin = none ∧ k.execution.lastOutcome = none ∧
      k.execution.evaluated = false ∧ k.result? = none
  | .suspended => ∃ step origin,
    k.execution.state = .suspended step ∧ k.execution.executed.getLast? = some step ∧
      k.execution.suspendedOrigin = some origin ∧
      (∀ q ∈ k.execution.pending, q.origin = .scheduled) ∧
      (origin = .declared → k.execution.pending = []) ∧
      k.result? = some (.ok (.suspended step))
  | .complete => ∃ step outcome,
    k.execution.state = .complete outcome ∧ k.execution.executed.getLast? = some step ∧
      k.situation.reports.getLast? = some (step, outcome) ∧ k.execution.pending = [] ∧
      k.execution.suspendedOrigin = none ∧
      k.result? = some (.ok (.complete ⟨k.execution.executed, outcome⟩))
  | .failed =>
    k.execution.state = .failed ∧ k.execution.pending = [] ∧ k.execution.suspendedOrigin = none ∧
      ∃ e, e.isRefusal = false ∧ k.result? = some (.error e)

/-- The standing in which an execution has its state. -/
def FlowState.standing : FlowState → Standing
  | .notStarted => .fresh
  | .suspended _ => .suspended
  | .complete _ => .complete
  | .failed => .failed

theorem Course.Stands.eq_standing {σ : Type} {k : Course σ} {x : Standing} (h : k.Stands x) :
    x = k.execution.state.standing := by
  cases x with
  | fresh => rw [h.1]; rfl
  | suspended =>
    obtain ⟨step, origin, hs, -⟩ := h
    rw [hs]
    rfl
  | complete =>
    obtain ⟨step, outcome, hs, -⟩ := h
    rw [hs]
    rfl
  | failed => rw [h.1]; rfl

/-- An origin is saved exactly while an attempt is suspended. -/
theorem Course.Stands.origin_iff {σ : Type} {k : Course σ} {x : Standing} (h : k.Stands x) :
    (∃ origin, k.execution.suspendedOrigin = some origin) ↔
      ∃ step, k.execution.state = .suspended step := by
  cases x with
  | fresh =>
    obtain ⟨hs, -, -, ho, -⟩ := h
    simp [hs, ho]
  | suspended =>
    obtain ⟨step, origin, hs, -, ho, -⟩ := h
    simp [hs, ho]
  | complete =>
    obtain ⟨step, outcome, hs, -, -, -, ho, -⟩ := h
    simp [hs, ho]
  | failed =>
    obtain ⟨hs, -, ho, -⟩ := h
    simp [hs, ho]

theorem Stage.Agrees.complete {stage : Stage} {e : Execution} {outcome : Outcome}
    (h : stage.Agrees e) (hs : e.state = .complete outcome) :
    ∃ report, stage = .over (.ok report) ∧ report.lastOutcome = outcome := by
  rcases stage with _ | _ | p | (error | report)
  · exact absurd (hs.symm.trans h) (by simp)
  · exact h.elim
  · exact absurd (hs.symm.trans h.1) (by simp)
  · exact absurd (hs.symm.trans h.1) (by simp)
  · exact ⟨report, rfl, by simpa using h.symm.trans hs⟩

/-! ### The saved origin -/

/-- The origin that is saved at a stage. -/
def Stage.savedOrigin : Stage → Option Origin
  | .waiting p => some p.origin
  | _ => none

namespace Controller

variable {σ : Type} {c : Controller σ} {told : Option Outcome}

theorem Executes.suspendedOrigin_eq {s s' : Situation σ} {p : Pending}
    {r : Except StepError StepStatus} (h : c.Executes s p r s') :
    s'.attempt.execution.suspendedOrigin = s.attempt.execution.suspendedOrigin := by
  cases h with
  | mk => rfl

theorem Ensues.savedOrigin_eq {p : Pending} {outcome : Outcome} {s : Situation σ} {m : Moment σ}
    (h : c.Ensues p outcome s m) : m.stage.savedOrigin = none := by
  cases h <;> rfl

/-- The origin of a step is saved when it is suspended, and taken when it
    reports. -/
theorem origin_of_turn {m m' : Moment σ} (h : c.Turn told m m')
    (hm : m.execution.suspendedOrigin = m.stage.savedOrigin) :
    m'.execution.suspendedOrigin = m'.stage.savedOrigin := by
  cases h with
  | start | exceed | conclude => exact hm
  | follow hr he =>
    rw [he.savedOrigin_eq, Moment.execution, he.suspendedOrigin_eq]
    cases hr with
    | completed hx => exact hx.suspendedOrigin_eq.trans hm
    | resumed => rfl
  | suspend => rfl
  | crash hx => exact hx.suspendedOrigin_eq.trans hm

/-! ### Courses -/

variable {principal : Principal} {attributes : Attributes} {state : σ} {k : Course σ}

theorem stands_of_follows {stage : Stage}
    (h : c.Follows (outset principal attributes state) k stage) : ∃ x, k.Stands x := by
  have horder := h.turns.keeps (fun _ _ _ => order_of_turn) rfl
  have horigin : k.execution.suspendedOrigin = stage.savedOrigin :=
    h.turns.keeps (P := fun m => m.execution.suspendedOrigin = m.stage.savedOrigin)
      (fun _ _ _ => origin_of_turn) rfl
  have hrecount := recount_of_turns h.turns
  have hagrees := h.agrees
  rcases stage with _ | _ | p | (error | report)
  · -- Before the start, nothing has happened.
    have hk := congrArg Moment.situation h.turns.eq_of_ready
    have hsituation : k.situation = ⟨.new principal attributes, state, []⟩ := hk.symm
    refine ⟨.fresh, ?_⟩
    rw [Course.Stands, Course.execution, hsituation]
    exact ⟨rfl, rfl, rfl, rfl, rfl, rfl, h.result⟩
  · exact hagrees.elim
  · obtain ⟨hpending, hdeclared⟩ := horder
    refine ⟨.suspended, p.step, p.origin, hagrees.1, ?_, horigin, hpending, hdeclared, h.result⟩
    -- The step that the attempt waits for has not reported, and is the last one.
    have hx : k.situation.reports.map Prod.fst ++ [p.step] = k.execution.executed :=
      hrecount.executed
    rw [← hx, List.getLast?_concat]
  · exact ⟨.failed, hagrees.1, horder, horigin, error, hagrees.2, h.result⟩
  · obtain ⟨hx, -, hreport, step, hlast⟩ := hrecount.complete
    have hexecuted : report.executed = k.execution.executed := hreport.trans hx
    refine ⟨.complete, step, report.lastOutcome, hagrees, ?_, hlast, horder, horigin, ?_⟩
    · rw [Course.execution, ← hx, List.getLast?_map, hlast]
      rfl
    · rw [h.result, ← hexecuted]
      rfl

/-- The steps of an attempt that is complete have all come to an outcome, the
    last one to that of the attempt. -/
theorem answers_of_complete {stage : Stage} {outcome : Outcome}
    (h : c.Follows (outset principal attributes state) k stage)
    (hs : k.execution.state = .complete outcome) :
    k.situation.answers.length = k.execution.executed.length ∧
      k.situation.answers.getLast? = some (.ok outcome) := by
  obtain ⟨report, rfl, rfl⟩ := h.agrees.complete hs
  obtain ⟨hx, ha, -, step, hlast⟩ := (recount_of_turns h.turns).complete
  rw [ha, Course.execution, ← hx, List.length_map, List.length_map, List.getLast?_map, hlast]
  exact ⟨rfl, rfl⟩

/-- After any calls, an attempt has exactly one standing. An origin is saved
    exactly while it is suspended, so that none has to be made up when it is
    resumed; and a last outcome is there whenever it ends, which is what the
    executor or the surroundings told of the step executed last. -/
theorem unique_standing (c : Controller σ) (calls : List Call) (principal : Principal)
    (attributes : Attributes) (state : σ) :
    let k := c.course calls (.new principal attributes) state
    let t := c.transcript calls (.new principal attributes) state
    (∃! x, k.Stands x) ∧
      ((∃ origin, k.execution.suspendedOrigin = some origin) ↔
        ∃ step, k.execution.state = .suspended step) ∧
      (∀ told s, c.Turns told (outset principal attributes state) ⟨.going, s⟩ →
        s.attempt.execution.pending = [] →
          ∃ outcome, s.attempt.execution.lastOutcome = some outcome) ∧
      ∀ outcome, k.execution.state = .complete outcome →
        t.replies.map Prod.fst = k.execution.executed ∧
        (comeTo (t.replies.map Prod.snd) k.told).length = k.execution.executed.length ∧
        (comeTo (t.replies.map Prod.snd) k.told).getLast? = some (.ok outcome) := by
  intro k t
  obtain ⟨stage, h, -⟩ := c.course_turns calls principal attributes state
  obtain ⟨x, hx⟩ := stands_of_follows h
  refine ⟨⟨x, hx, fun y hy => hy.eq_standing.trans hx.eq_standing.symm⟩, hx.origin_iff,
    fun told s ht hp => ?_, fun outcome hs => ?_⟩
  · obtain ⟨-, outcome, -, ho⟩ := (recount_of_turns ht).exists_last hp
    exact ⟨outcome, ho⟩
  · obtain ⟨hrequests, hanswers, -⟩ := c.transcript_of_course calls principal attributes state
    rw [hanswers]
    exact ⟨hrequests, answers_of_complete h hs⟩

end Controller

end LoginGate
