import LoginGate.Proofs.Flow.Turn

/-!
# The queue and the account of an attempt

Two invariants of the turns of an attempt.

* The queue is *orderly*: a declared step waits alone, and behind any step
  there are scheduled ones only (`order_of_turn`).
* The events give an *account* of the execution: as many answers as steps
  executed, but for the step that the attempt waits for, and no verdict before
  the gate is visited (`account_of_turn`). No event is ever forgotten
  (`view_of_turn`).
-/

namespace LoginGate

/-- What waits behind a step: scheduled steps, and none behind a declared one. -/
def Behind (p : Pending) (rest : List Pending) : Prop :=
  (∀ q ∈ rest, q.origin = .scheduled) ∧ (p.origin = .declared → rest = [])

/-- A queue in which a declared step waits alone. -/
def Orderly : List Pending → Prop
  | [] => True
  | p :: rest => Behind p rest

theorem orderly_of_scheduled {l : List Pending} (h : ∀ p ∈ l, p.origin = .scheduled) :
    Orderly l := by
  cases l with
  | nil => trivial
  | cons p rest =>
    refine ⟨fun q hq => h q (List.mem_cons_of_mem _ hq), fun hp => ?_⟩
    rw [h p List.mem_cons_self] at hp
    cases hp

theorem orderly_schedule {steps : List StepId} {l : List Pending}
    (h : ∀ p ∈ l, p.origin = .scheduled) :
    Orderly (steps.map (⟨·, .scheduled⟩) ++ l) := by
  refine orderly_of_scheduled fun p hp => ?_
  rcases List.mem_append.1 hp with hp | hp
  · obtain ⟨_, _, rfl⟩ := List.mem_map.1 hp
    rfl
  · exact h p hp

/-- How many executed steps have an outcome that is due. -/
def Stage.due : Stage → Nat
  | .waiting _ => 1
  | _ => 0

namespace Moment

variable {σ : Type}

/-- The state of the execution. -/
def execution (m : Moment σ) : Execution := m.situation.attempt.execution

/-- The queue is orderly, and empty before the start and after the end. -/
def HasOrder (m : Moment σ) : Prop :=
  match m.stage with
  | .ready | .over _ => m.execution.pending = []
  | .going => Orderly m.execution.pending
  | .waiting p => Behind p m.execution.pending

/-- The events tell what every executed step came to, except the one that the
    attempt waits for, and of no verdict unless the gate was visited. -/
structure Accounted (m : Moment σ) : Prop where
  /-- As many answers as steps. -/
  answers : m.situation.answers.length + m.stage.due = m.execution.executed.length
  /-- No verdict without a visit. -/
  verdicts : m.execution.evaluated = false → m.situation.verdicts = []

end Moment

namespace Controller

variable {σ : Type} {c : Controller σ} {told : Option Outcome}

/-! ### Order -/

/-- What waits behind a step that is executed, and behind one that reports. -/
theorem Executes.behind {s s' : Situation σ} {p : Pending} {r : Except StepError StepStatus}
    (h : c.Executes s p r s') (hs : Orderly s.attempt.execution.pending) :
    Behind p s'.attempt.execution.pending := by
  cases h with
  | mk hp _ =>
    rw [hp] at hs
    exact hs

theorem Reports.behind {m : Moment σ} {p : Pending} {outcome : Outcome} {s : Situation σ}
    (h : c.Reports told m p outcome s) (hm : m.HasOrder) :
    Behind p s.attempt.execution.pending := by
  cases h with
  | completed hx => exact hx.behind hm
  | resumed => exact hm

theorem order_of_ensues {p : Pending} {outcome : Outcome} {s : Situation σ} {m : Moment σ}
    (h : c.Ensues p outcome s m) (hb : Behind p s.attempt.execution.pending) : m.HasOrder := by
  cases h with
  -- The next declared step is put into an empty queue.
  | next => exact ⟨nofun, fun _ => rfl⟩
  | last _ _ hs _ => exact orderly_of_scheduled hb.1
  | rest => exact orderly_of_scheduled hb.1
  | execute | pass => exact orderly_schedule hb.1
  | again | refuse | route => rfl

theorem order_of_turn {m m' : Moment σ} (h : c.Turn told m m') (hm : m.HasOrder) :
    m'.HasOrder := by
  cases h with
  | @start s =>
    have hp : s.attempt.execution.pending = [] := hm
    show Orderly (s.attempt.execution.pending ++ [⟨c.definition.entry, .declared⟩])
    rw [hp]
    exact ⟨nofun, fun _ => rfl⟩
  | follow hr he => exact order_of_ensues he (hr.behind hm)
  | suspend hx => exact hx.behind hm
  | crash | exceed => rfl
  | conclude hp => exact hp

/-! ### Account -/

section View

variable {α : Type} {f : FlowEvent → Option α}

theorem Executes.view_prefix {s s' : Situation σ} {p : Pending}
    {r : Except StepError StepStatus} (h : c.Executes s p r s') : s.view f <+: s'.view f := by
  cases h with
  | mk => simp

theorem Reports.view_prefix {m : Moment σ} {p : Pending} {outcome : Outcome} {s : Situation σ}
    (h : c.Reports told m p outcome s) : m.situation.view f <+: s.view f := by
  cases h with
  | completed hx => exact hx.view_prefix
  | resumed => exact List.prefix_rfl

theorem Ensues.view_prefix {p : Pending} {outcome : Outcome} {s : Situation σ} {m : Moment σ}
    (h : c.Ensues p outcome s m) : s.view f <+: m.situation.view f := by
  cases h <;> simp

/-- A turn forgets no event. -/
theorem view_of_turn {m m' : Moment σ} (h : c.Turn told m m') :
    m.situation.view f <+: m'.situation.view f := by
  cases h with
  | start => simp
  | follow hr he => exact hr.view_prefix.trans he.view_prefix
  | suspend hx => exact hx.view_prefix.trans (by simp)
  | crash hx => exact hx.view_prefix.trans (by simp)
  | exceed => simp
  | conclude => simp

/-- Where the execution of steps is not shown, it changes nothing. -/
theorem Executes.view_eq (hf : ∀ step, f (.executing step) = none) {s s' : Situation σ}
    {p : Pending} {r : Except StepError StepStatus} (h : c.Executes s p r s') :
    s'.view f = s.view f := by
  cases h with
  | mk => simp [hf]

theorem Reports.view_eq (hf : ∀ step, f (.executing step) = none) {m : Moment σ} {p : Pending}
    {outcome : Outcome} {s : Situation σ} (h : c.Reports told m p outcome s) :
    s.view f = m.situation.view f := by
  cases h with
  | completed hx => exact hx.view_eq hf
  | resumed => rfl

end View

theorem Executes.executed_eq {s s' : Situation σ} {p : Pending} {r : Except StepError StepStatus}
    (h : c.Executes s p r s') :
    s'.attempt.execution.executed = s.attempt.execution.executed ++ [p.step] := by
  cases h with
  | mk => rfl

theorem Executes.evaluated_eq {s s' : Situation σ} {p : Pending} {r : Except StepError StepStatus}
    (h : c.Executes s p r s') : s'.attempt.execution.evaluated = s.attempt.execution.evaluated := by
  cases h with
  | mk => rfl

theorem Reports.evaluated_eq {m : Moment σ} {p : Pending} {outcome : Outcome} {s : Situation σ}
    (h : c.Reports told m p outcome s) : s.attempt.execution.evaluated = m.execution.evaluated := by
  cases h with
  | completed hx => exact hx.evaluated_eq
  | resumed => rfl

/-- When a step was executed, its answer is the only one that is due. -/
theorem Executes.length_answers {s s' : Situation σ} {p : Pending}
    {r : Except StepError StepStatus} (h : c.Executes s p r s')
    (hs : (⟨.going, s⟩ : Moment σ).Accounted) :
    s'.answers.length + 1 = s'.attempt.execution.executed.length := by
  have ha : s'.answers = s.answers := h.view_eq fun _ => rfl
  rw [ha, h.executed_eq, List.length_append]
  exact congrArg (· + 1) hs.answers

theorem Reports.length_answers {m : Moment σ} {p : Pending} {outcome : Outcome}
    {s : Situation σ} (h : c.Reports told m p outcome s) (hm : m.Accounted) :
    s.answers.length + 1 = s.attempt.execution.executed.length := by
  cases h with
  | completed hx => exact hx.length_answers hm
  | resumed => exact hm.answers

/-- A step that is executed, or reports, makes no verdict. -/
theorem Executes.verdicts_eq_nil {s s' : Situation σ} {p : Pending}
    {r : Except StepError StepStatus} (h : c.Executes s p r s')
    (hs : (⟨.going, s⟩ : Moment σ).Accounted) (he : s'.attempt.execution.evaluated = false) :
    s'.verdicts = [] := by
  have hv : s'.verdicts = s.verdicts := h.view_eq fun _ => rfl
  exact hv.trans (hs.verdicts (h.evaluated_eq.symm.trans he))

theorem Reports.verdicts_eq_nil {m : Moment σ} {p : Pending} {outcome : Outcome}
    {s : Situation σ} (h : c.Reports told m p outcome s) (hm : m.Accounted)
    (he : s.attempt.execution.evaluated = false) : s.verdicts = [] := by
  have hv : s.verdicts = m.situation.verdicts := h.view_eq fun _ => rfl
  exact hv.trans (hm.verdicts (h.evaluated_eq.symm.trans he))

/-- A report adds its outcome to the answers. -/
theorem Ensues.answers_eq {p : Pending} {outcome : Outcome} {s : Situation σ} {m : Moment σ}
    (h : c.Ensues p outcome s m) : m.situation.answers = s.answers ++ [.ok outcome] := by
  cases h <;> simp [Situation.answers, FlowEvent.answer?]

theorem Ensues.due_eq {p : Pending} {outcome : Outcome} {s : Situation σ} {m : Moment σ}
    (h : c.Ensues p outcome s m) : m.stage.due = 0 := by
  cases h <;> rfl

/-- Without a visit of the gate, there is no new verdict. -/
theorem Ensues.verdicts_eq {p : Pending} {outcome : Outcome} {s : Situation σ} {m : Moment σ}
    (h : c.Ensues p outcome s m) (hm : m.execution.evaluated = false) :
    s.attempt.execution.evaluated = false ∧ m.situation.verdicts = s.verdicts := by
  cases h with
  | again _ he => exact absurd (he.symm.trans hm) (by simp)
  -- Where the limit is evaluated, the gate is visited.
  | pass | refuse => cases hm
  | next | last | rest | execute | route =>
    exact ⟨hm, by simp [Situation.verdicts, FlowEvent.verdict?]⟩

theorem account_of_turn {m m' : Moment σ} (h : c.Turn told m m') (hm : m.Accounted) :
    m'.Accounted := by
  cases h with
  | start => exact ⟨hm.answers, hm.verdicts⟩
  | @follow _ _ _ p outcome s hr he =>
    refine ⟨?_, fun hm' => ?_⟩
    · -- The report brings the answer that was due.
      rw [he.answers_eq, he.due_eq, Moment.execution, he.executed_eq, List.length_append]
      exact hr.length_answers hm
    · obtain ⟨hs, hv⟩ := he.verdicts_eq hm'
      exact hv.trans (hr.verdicts_eq_nil hm hs)
  | @suspend s s' p hx =>
    have ha : (s'.suspend p).answers = s'.answers := Situation.view_suspend_of_none rfl
    have hv : (s'.suspend p).verdicts = s'.verdicts := Situation.view_suspend_of_none rfl
    refine ⟨?_, fun hm' => hv.trans (hx.verdicts_eq_nil hm hm')⟩
    show (s'.suspend p).answers.length + 1 = s'.attempt.execution.executed.length
    rw [ha]
    exact hx.length_answers hm
  | @crash s s' p cause hx =>
    have ha : (s'.fail (.step p.step cause)).answers = s'.answers ++ [.error cause] :=
      Situation.view_fail _
    have hv : (s'.fail (.step p.step cause)).verdicts = s'.verdicts :=
      Situation.view_fail_of_none rfl
    refine ⟨?_, fun hm' => hv.trans (hx.verdicts_eq_nil hm hm')⟩
    show (s'.fail (.step p.step cause)).answers.length = s'.attempt.execution.executed.length
    rw [ha, List.length_append]
    exact hx.length_answers hm
  | @exceed s p =>
    have ha : (s.fail (.stepLimitExceeded p.step)).answers = s.answers :=
      Situation.view_fail_of_none rfl
    have hv : (s.fail (.stepLimitExceeded p.step)).verdicts = s.verdicts :=
      Situation.view_fail_of_none rfl
    refine ⟨?_, fun hm' => hv.trans (hm.verdicts hm')⟩
    show (s.fail (.stepLimitExceeded p.step)).answers.length = s.attempt.execution.executed.length
    rw [ha]
    exact hm.answers
  | conclude => exact ⟨hm.answers, hm.verdicts⟩

end Controller

end LoginGate
