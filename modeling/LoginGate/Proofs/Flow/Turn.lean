import LoginGate.Proofs.Flow.Course

/-!
# The turns of an attempt

A course consists of turns. In a turn the controller executes the next step, or
follows the outcome that a step reported, be it the executor that reports it or
the surroundings that resume the attempt with it. Between its turns an attempt
is at a *moment*: a situation, and the stage at which the controller stands.

* `Ensues` says what may follow a report (`ensues_onOutcome`), and `Turn` what
  a turn may do;
* `course_turns`: a course is a chain of turns, in which the attempt is resumed
  with the outcomes that the calls gave, and its result is that of the stage it
  comes to. So whatever every turn preserves holds after any calls.
-/

namespace LoginGate

/-- Where the controller stands with an attempt. -/
inductive Stage where
  /-- The attempt is not started. -/
  | ready
  /-- The next waiting step is due. -/
  | going
  /-- A step was executed, and its outcome is due. -/
  | waiting (p : Pending)
  /-- The attempt ended. -/
  | over (result : Except FlowError FlowReport)

namespace Stage

/-- The result of the last call, if the attempt was started. -/
def result? : Stage → Option (Except FlowError Progress)
  | .ready | .going => none
  | .waiting p => some (.ok (.suspended p.step))
  | .over result => some (result.map .complete)

/-- The state of an execution agrees with the stage, and the stage is one
    between two calls. -/
def Agrees (e : Execution) : Stage → Prop
  | .ready => e.state = .notStarted
  | .going => False
  | .waiting p => e.state = .suspended p.step ∧ e.suspendedOrigin = some p.origin
  | .over (.ok report) => e.state = .complete report.lastOutcome
  | .over (.error error) => e.state = .failed ∧ error.isRefusal = false

theorem Agrees.ready {stage : Stage} {e : Execution} (h : stage.Agrees e)
    (hs : e.state = .notStarted) : stage = .ready := by
  rcases stage with _ | _ | p | (error | report)
  · rfl
  · exact h.elim
  · exact absurd (hs.symm.trans h.1) (by simp)
  · exact absurd (hs.symm.trans h.1) (by simp)
  · exact absurd (hs.symm.trans h) (by simp)

theorem Agrees.waiting {stage : Stage} {e : Execution} {step : StepId} (h : stage.Agrees e)
    (hs : e.state = .suspended step) :
    ∃ p : Pending, stage = .waiting p ∧ p.step = step ∧ e.suspendedOrigin = some p.origin := by
  rcases stage with _ | _ | p | (error | report)
  · exact absurd (hs.symm.trans h) (by simp)
  · exact h.elim
  · exact ⟨p, rfl, by simpa using h.1.symm.trans hs, h.2⟩
  · exact absurd (hs.symm.trans h.1) (by simp)
  · exact absurd (hs.symm.trans h) (by simp)

end Stage

/-- An attempt between two turns. -/
structure Moment (σ : Type) where
  /-- Where the controller stands. -/
  stage : Stage
  /-- The situation. -/
  situation : Situation σ

namespace Controller

variable {σ : Type} (c : Controller σ)

/-- What the executor replies when the first of the waiting steps is executed. -/
def reply (s : Situation σ) (p : Pending) (rest : List Pending) : StepReply σ :=
  c.executor.execute p.step (s.take p.step rest).attempt s.state

/-- What evaluating the limit at a gate says. -/
def evaluationAt (gate : SessionLimitGate) (s : Situation σ) : Evaluation σ :=
  c.registry.evaluateAttempt (s.enterGate gate).attempt s.state

/-- The first waiting step `p` is executed, which gives `result` and leads from
    the situation `s` to another. -/
inductive Executes (s : Situation σ) (p : Pending) :
    Except StepError StepStatus → Situation σ → Prop
  | mk {rest : List Pending} :
    s.attempt.execution.pending = p :: rest →
    s.attempt.execution.executed.length < maxSteps →
    Executes s p (c.reply s p rest).result ((s.take p.step rest).accept (c.reply s p rest))

/-- The step `p` reports an outcome at a moment, and the situation is `s` when
    that is followed. If the attempt is resumed for it, the outcome is told. -/
inductive Reports : Option Outcome → Moment σ → Pending → Outcome → Situation σ → Prop
  | completed {s s' : Situation σ} {p : Pending} {outcome : Outcome} :
    c.Executes s p (.ok (.completed outcome)) s' → Reports none ⟨.going, s⟩ p outcome s'
  | resumed {s : Situation σ} {p : Pending} {outcome : Outcome} :
    Reports (some outcome) ⟨.waiting p, s⟩ p outcome s.wake

/-- What follows the outcome of the step `p`, by the continuation. -/
inductive Ensues (p : Pending) (outcome : Outcome) (s : Situation σ) : Moment σ → Prop
  /-- Without a continuation, the next declared step follows a declared one. -/
  | next {next : StepId} :
    c.definition.continuation? p.step outcome = none →
    p.origin = .declared → s.attempt.execution.pending = [] →
    c.definition.nextDeclared? p.step = some next →
    Ensues p outcome s ⟨.going, (s.report p.step outcome).withPending [⟨next, .declared⟩]⟩
  /-- Nothing follows the last declared step. -/
  | last :
    c.definition.continuation? p.step outcome = none →
    p.origin = .declared → s.attempt.execution.pending = [] →
    c.definition.nextDeclared? p.step = none →
    Ensues p outcome s ⟨.going, s.report p.step outcome⟩
  /-- Without a continuation, a scheduled step leaves those that wait. -/
  | rest :
    c.definition.continuation? p.step outcome = none →
    ¬(p.origin = .declared ∧ s.attempt.execution.pending = []) →
    Ensues p outcome s ⟨.going, s.report p.step outcome⟩
  /-- The continuation schedules its steps. -/
  | execute {steps : List StepId} :
    c.definition.continuation? p.step outcome = some (.execute steps) →
    Ensues p outcome s ⟨.going, (s.report p.step outcome).schedule steps⟩
  /-- The gate was reached before. -/
  | again {gate : SessionLimitGate} :
    c.definition.continuation? p.step outcome = some (.sessionLimitGate gate) →
    s.attempt.execution.evaluated = true →
    Ensues p outcome s ⟨.over (.error (.alreadyEvaluated p.step)),
      (s.report p.step outcome).fail (.alreadyEvaluated p.step)⟩
  /-- The gate is passed. -/
  | pass {gate : SessionLimitGate} {verdict : Verdict} :
    c.definition.continuation? p.step outcome = some (.sessionLimitGate gate) →
    s.attempt.execution.evaluated = false →
    (c.evaluationAt gate (s.report p.step outcome)).result = .ok verdict →
    Ensues p outcome s ⟨.going,
      ((((s.report p.step outcome).enterGate gate).read
        (c.evaluationAt gate (s.report p.step outcome))).note
          (.decided verdict.isWithin)).schedule (gate.steps verdict.isWithin)⟩
  /-- The limit cannot be evaluated at the gate. -/
  | refuse {gate : SessionLimitGate} {cause : PolicyError} :
    c.definition.continuation? p.step outcome = some (.sessionLimitGate gate) →
    s.attempt.execution.evaluated = false →
    (c.evaluationAt gate (s.report p.step outcome)).result = .error cause →
    Ensues p outcome s ⟨.over (.error (.policy p.step cause)),
      (((s.report p.step outcome).enterGate gate).read
        (c.evaluationAt gate (s.report p.step outcome))).fail (.policy p.step cause)⟩
  /-- The flow makes the attempt fail. -/
  | route {reason : Option String} :
    c.definition.continuation? p.step outcome = some (.fail reason) →
    Ensues p outcome s
      ⟨.over (.error (.routed p.step (reason.getD ("outcome " ++ outcome.name)))),
        (s.report p.step outcome).fail
          (.routed p.step (reason.getD ("outcome " ++ outcome.name)))⟩

/-- A turn from one moment to another, and the outcome that the attempt is
    resumed with, if it is. -/
inductive Turn : Option Outcome → Moment σ → Moment σ → Prop
  /-- The attempt is started at the entry. -/
  | start {s : Situation σ} :
    Turn none ⟨.ready, s⟩
      ⟨.going, s.withPending (s.attempt.execution.pending ++ [⟨c.definition.entry, .declared⟩])⟩
  /-- The outcome of a step is followed. -/
  | follow {told : Option Outcome} {m m' : Moment σ} {p : Pending} {outcome : Outcome}
    {s : Situation σ} :
    c.Reports told m p outcome s → c.Ensues p outcome s m' → Turn told m m'
  /-- A step is suspended. -/
  | suspend {s s' : Situation σ} {p : Pending} :
    c.Executes s p (.ok .suspended) s' → Turn none ⟨.going, s⟩ ⟨.waiting p, s'.suspend p⟩
  /-- A step cannot be executed. -/
  | crash {s s' : Situation σ} {p : Pending} {cause : StepError} :
    c.Executes s p (.error cause) s' →
    Turn none ⟨.going, s⟩ ⟨.over (.error (.step p.step cause)), s'.fail (.step p.step cause)⟩
  /-- Another step is due after as many as an attempt executes. -/
  | exceed {s : Situation σ} {p : Pending} {rest : List Pending} :
    s.attempt.execution.pending = p :: rest → maxSteps ≤ s.attempt.execution.executed.length →
    Turn none ⟨.going, s⟩
      ⟨.over (.error (.stepLimitExceeded p.step)), s.fail (.stepLimitExceeded p.step)⟩
  /-- No step waits. -/
  | conclude {s : Situation σ} :
    s.attempt.execution.pending = [] →
    Turn none ⟨.going, s⟩ ⟨.over (.ok ⟨s.attempt.execution.executed,
        s.attempt.execution.lastOutcome.getD .failure⟩),
      s.finish (s.attempt.execution.lastOutcome.getD .failure)⟩

/-- Turns one after another, with the outcomes that the attempt is resumed
    with in them. -/
inductive Turns : List Outcome → Moment σ → Moment σ → Prop
  | refl {m : Moment σ} : Turns [] m m
  | head {told : Option Outcome} {later : List Outcome} {m m' m'' : Moment σ} :
    c.Turn told m m' → Turns later m' m'' → Turns (told.toList ++ later) m m''

variable {c}

theorem Turns.single {told : Option Outcome} {m m' : Moment σ} (h : c.Turn told m m') :
    c.Turns told.toList m m' := by
  have ht : c.Turns (told.toList ++ []) m m' := .head h .refl
  rwa [List.append_nil] at ht

theorem Turns.trans {before later : List Outcome} {m m' m'' : Moment σ}
    (h : c.Turns before m m') (h' : c.Turns later m' m'') : c.Turns (before ++ later) m m'' := by
  induction h with
  | refl => exact h'
  | head ht _ ih =>
    rw [List.append_assoc]
    exact .head ht (ih h')

/-- What every turn preserves is preserved by turns one after another. -/
theorem Turns.keeps {P : Moment σ → Prop} (h : ∀ told m m', c.Turn told m m' → P m → P m')
    {told : List Outcome} {m m' : Moment σ} (ht : c.Turns told m m') (hm : P m) : P m' := by
  induction ht with
  | refl => exact hm
  | head ht _ ih => exact ih (h _ _ _ ht hm)

/-- The same of what depends on the outcomes that the attempt was resumed with. -/
theorem Turns.keeps_told {P : List Outcome → Moment σ → Prop}
    (h : ∀ before told m m', c.Turn told m m' → P before m → P (before ++ told.toList) m')
    {before told : List Outcome} {m m' : Moment σ} (ht : c.Turns told m m') (hm : P before m) :
    P (before ++ told) m' := by
  induction ht generalizing before with
  | refl => rwa [List.append_nil]
  | head ht _ ih =>
    rw [← List.append_assoc]
    exact ih (h _ _ _ _ ht hm)

/-- No turn leads back before the start. -/
theorem Turns.eq_of_ready {told : List Outcome} {m : Moment σ} {s : Situation σ}
    (h : c.Turns told m ⟨.ready, s⟩) : m = ⟨.ready, s⟩ := by
  generalize hm' : Moment.mk .ready s = m' at h
  induction h with
  | refl => rfl
  | head ht _ ih =>
    -- The last of the turns would have to end before the start.
    obtain rfl := ih hm'
    subst hm'
    cases ht with
    | follow _ he => cases he

/-! ### The controller takes turns -/

/-- The moment after the outcome of a step was followed. -/
def momentAfter : Except FlowError Unit × Situation σ → Moment σ
  | (.ok (), s) => ⟨.going, s⟩
  | (.error e, s) => ⟨.over (.error e), s.fail e⟩

theorem passGate_again {step : StepId} {gate : SessionLimitGate} {s : Situation σ}
    (h : s.attempt.execution.evaluated = true) :
    c.passGate step gate s = (.error (.alreadyEvaluated step), s) := if_pos h

theorem passGate_first {step : StepId} {gate : SessionLimitGate} {s : Situation σ}
    (h : s.attempt.execution.evaluated = false) :
    c.passGate step gate s =
      match (c.evaluationAt gate s).result with
      | .error cause =>
        (.error (.policy step cause), (s.enterGate gate).read (c.evaluationAt gate s))
      | .ok verdict =>
        (.ok (gate.steps verdict.isWithin),
          ((s.enterGate gate).read (c.evaluationAt gate s)).note (.decided verdict.isWithin)) :=
  if_neg (by simp [h])

/-- What the controller does about an outcome ensues from it. -/
theorem ensues_onOutcome (p : Pending) (outcome : Outcome) (s : Situation σ) :
    c.Ensues p outcome s (momentAfter (c.onOutcome p.step p.origin outcome s)) := by
  rw [onOutcome]
  split
  · next hk =>
    split
    · next h =>
      split
      · next hn => exact .next hk h.1 h.2 hn
      · next hn => exact .last hk h.1 h.2 hn
    · next h => exact .rest hk h
  · next hk => exact .execute hk
  · next gate hk =>
    cases he : s.attempt.execution.evaluated with
    | true =>
      rw [passGate_again (s := s.report p.step outcome) he]
      exact .again hk he
    | false =>
      rw [passGate_first (s := s.report p.step outcome) he]
      cases hr : (c.evaluationAt gate (s.report p.step outcome)).result with
      | error cause => exact .refuse hk he hr
      | ok verdict => exact .pass hk he hr
  · next hk => exact .route hk

/-- No error that ensues refuses a call. -/
theorem Ensues.not_refusal {p : Pending} {outcome : Outcome} {s s' : Situation σ} {e : FlowError}
    (h : c.Ensues p outcome s ⟨.over (.error e), s'⟩) : e.isRefusal = false := by
  cases h <;> rfl

/-- No step is executed when an outcome is followed. -/
theorem Ensues.executed_eq {p : Pending} {outcome : Outcome} {s : Situation σ} {m : Moment σ}
    (h : c.Ensues p outcome s m) :
    m.situation.attempt.execution.executed = s.attempt.execution.executed := by
  cases h <;> rfl

theorem Ensues.suspendedOrigin_eq {p : Pending} {outcome : Outcome} {s : Situation σ}
    {m : Moment σ} (h : c.Ensues p outcome s m) :
    m.situation.attempt.execution.suspendedOrigin = s.attempt.execution.suspendedOrigin := by
  cases h <;> rfl

/-- The moment that a call comes to. -/
structure Reaches (told : List Outcome) (m : Moment σ)
    (r : Except FlowError Progress × Situation σ) (stage : Stage) : Prop where
  /-- Turns lead there. -/
  turns : c.Turns told m ⟨stage, r.2⟩
  /-- The result is that of the stage. -/
  result : stage.result? = some r.1
  /-- The stage is one between two calls. -/
  agrees : stage.Agrees r.2.attempt.execution

theorem Reaches.head {told : Option Outcome} {m m' : Moment σ}
    {r : Except FlowError Progress × Situation σ} {stage : Stage} (ht : c.Turn told m m')
    (h : c.Reaches [] m' r stage) : c.Reaches told.toList m r stage :=
  ⟨told.toList.append_nil ▸ .head ht h.turns, h.result, h.agrees⟩

/-- An error that ends the attempt is reached in one turn. -/
theorem reaches_error {told : Option Outcome} {m : Moment σ} {s : Situation σ} {e : FlowError}
    (ht : c.Turn told m ⟨.over (.error e), s.fail e⟩) (he : e.isRefusal = false) :
    c.Reaches told.toList m (settle (.error e, s)) (.over (.error e)) :=
  ⟨.single ht, rfl, rfl, he⟩

theorem run_nil {budget : Nat} {s : Situation σ} (h : s.attempt.execution.pending = []) :
    c.run budget s = conclude s := by
  cases budget <;> rw [run, h]

theorem run_zero {s : Situation σ} {p : Pending} {rest : List Pending}
    (h : s.attempt.execution.pending = p :: rest) :
    c.run 0 s = (.error (.stepLimitExceeded p.step), s.withPending rest) := by
  rw [run, h]

/-- The situation after the first waiting step was executed. -/
def executed (c : Controller σ) (s : Situation σ) (p : Pending) (rest : List Pending) :
    Situation σ :=
  (s.take p.step rest).accept (c.reply s p rest)

theorem run_succ {budget : Nat} {s : Situation σ} {p : Pending} {rest : List Pending}
    (h : s.attempt.execution.pending = p :: rest) :
    c.run (budget + 1) s =
      match (c.reply s p rest).result with
      | .error cause => (.error (.step p.step cause), c.executed s p rest)
      | .ok .suspended => (.ok (.suspended p.step), (c.executed s p rest).suspend p)
      | .ok (.completed outcome) =>
        match c.onOutcome p.step p.origin outcome (c.executed s p rest) with
        | (.error e, s') => (.error e, s')
        | (.ok (), s') => c.run budget s' := by
  rw [run, h]
  rfl

/-- Induction on the steps that a run may execute: it ends where no step waits,
    stops where none may be executed, or executes the first one that waits. -/
@[elab_as_elim]
theorem run_induction {motive : Nat → Situation σ → Prop}
    (done : ∀ budget s, s.attempt.execution.pending = [] → motive budget s)
    (exhausted : ∀ s p rest, s.attempt.execution.pending = p :: rest → motive 0 s)
    (step : ∀ budget s p rest, s.attempt.execution.pending = p :: rest →
      (∀ s', motive budget s') → motive (budget + 1) s)
    (budget : Nat) (s : Situation σ) : motive budget s := by
  induction budget generalizing s with
  | zero =>
    cases hp : s.attempt.execution.pending with
    | nil => exact done 0 s hp
    | cons p rest => exact exhausted s p rest hp
  | succ budget ih =>
    cases hp : s.attempt.execution.pending with
    | nil => exact done (budget + 1) s hp
    | cons p rest => exact step budget s p rest hp ih

/-- A call that goes on with `next` after an outcome was followed reaches a
    moment, if `next` does. -/
theorem reaches_onOutcome {told : Option Outcome} {m : Moment σ} {p : Pending}
    {outcome : Outcome} {s : Situation σ}
    {next : Situation σ → Except FlowError Progress × Situation σ}
    (hr : c.Reports told m p outcome s)
    (hnext : ∀ s', c.Ensues p outcome s ⟨.going, s'⟩ →
      ∃ stage, c.Reaches [] ⟨.going, s'⟩ (settle (next s')) stage) :
    ∃ stage, c.Reaches told.toList m
      (settle (match c.onOutcome p.step p.origin outcome s with
        | (.error e, s') => (.error e, s')
        | (.ok (), s') => next s')) stage := by
  -- Of what was done about the outcome, it matters only that it ensues.
  have he := c.ensues_onOutcome p outcome s
  generalize c.onOutcome p.step p.origin outcome s = r at he ⊢
  obtain ⟨e | _, s'⟩ := r
  · exact ⟨_, reaches_error (.follow hr he) he.not_refusal⟩
  · obtain ⟨stage, h⟩ := hnext s' he
    exact ⟨stage, h.head (.follow hr he)⟩

/-- A run takes turns until the attempt is suspended or over. -/
theorem run_turns {budget : Nat} {s : Situation σ}
    (hb : budget = maxSteps - s.attempt.execution.executed.length) :
    ∃ stage, c.Reaches [] ⟨.going, s⟩ (settle (c.run budget s)) stage := by
  induction budget, s using run_induction with
  | done budget s hp =>
    rw [run_nil hp]
    exact ⟨_, .single (.conclude hp), rfl, rfl⟩
  | exhausted s p rest hp =>
    rw [run_zero hp]
    exact ⟨_, reaches_error (.exceed hp (by omega)) rfl⟩
  | step budget s p rest hp ih =>
    have hx : c.Executes s p (c.reply s p rest).result (c.executed s p rest) :=
      .mk hp (by omega)
    rw [run_succ hp]
    split
    · next cause hr => exact ⟨_, reaches_error (.crash (hr ▸ hx)) rfl⟩
    · next hr => exact ⟨_, .single (.suspend (hr ▸ hx)), rfl, rfl, rfl⟩
    · next outcome hr =>
      -- The step counts, also if the outcome that follows it schedules others.
      refine reaches_onOutcome (.completed (hr ▸ hx)) fun s' he => ih s' ?_
      have hlen : (c.executed s p rest).attempt.execution.executed =
          s.attempt.execution.executed ++ [p.step] := rfl
      rw [he.executed_eq, hlen, List.length_append, List.length_singleton]
      omega

theorem startIn_turns {s : Situation σ} (h : s.attempt.execution.state = .notStarted) :
    ∃ stage, c.Reaches [] ⟨.ready, s⟩ (c.startIn s) stage := by
  rw [startIn, if_pos h]
  obtain ⟨stage, hr⟩ := run_turns (c := c)
    (s := s.withPending (s.attempt.execution.pending ++ [⟨c.definition.entry, .declared⟩])) rfl
  exact ⟨stage, hr.head .start⟩

/-- The step goes on with the origin that was saved, or with the one in its place. -/
theorem resumeIn_turns {s : Situation σ} {step : StepId} (outcome : Outcome)
    (h : s.attempt.execution.state = .suspended step) :
    ∃ stage, c.Reaches [outcome]
      ⟨.waiting ⟨step, s.attempt.execution.suspendedOrigin.getD .declared⟩, s⟩
      (c.resumeIn outcome s) stage := by
  -- The step, with that origin.
  let p : Pending := ⟨step, s.attempt.execution.suspendedOrigin.getD .declared⟩
  have hr : c.Reports (some outcome) ⟨.waiting p, s⟩ p outcome s.wake := .resumed
  rw [resumeIn, h]
  exact reaches_onOutcome hr fun s' _ => run_turns rfl

/-- A call that the attempt is ready for reaches a moment; any other one is
    refused and changes nothing. -/
theorem perform_turns {stage : Stage} {s : Situation σ} (call : Call)
    (h : stage.Agrees s.attempt.execution) :
    (isRefused (c.perform call s).1 = true ∧ (c.perform call s).2 = s ∧
        (stage = .ready → call ≠ .start)) ∨
      ((stage = .ready → call = .start) ∧
        ∃ stage', c.Reaches call.outcome?.toList ⟨stage, s⟩ (c.perform call s) stage') := by
  by_cases ha : s.attempt.execution.Admits call
  · cases call with
    | start =>
      obtain rfl := h.ready ha
      exact .inr ⟨fun _ => rfl, startIn_turns ha⟩
    | resume outcome =>
      -- The origin was saved with the step, so none has to be made up.
      obtain ⟨step, hs⟩ := ha
      obtain ⟨p, rfl, rfl, ho⟩ := h.waiting hs
      have hr := c.resumeIn_turns outcome hs
      rw [ho] at hr
      exact .inr ⟨nofun, hr⟩
  · rw [c.perform_of_not_admits ha]
    refine .inl ⟨isRefused_refusal call, rfl, ?_⟩
    rintro rfl rfl
    exact ha h

theorem Reaches.not_refused {told : List Outcome} {m : Moment σ}
    {r : Except FlowError Progress × Situation σ} {stage : Stage}
    (h : c.Reaches told m r stage) : isRefused r.1 = false := by
  obtain ⟨_ | _, s⟩ := r
  · -- Of all stages, only that of an attempt that failed has an error.
    have hr := h.result
    have ha := h.agrees
    rcases stage with _ | _ | p | (error | report)
    · cases hr
    · cases hr
    · cases hr
    · obtain rfl : error = _ := by simpa [Stage.result?, Except.map] using hr
      exact ha.2
    · cases hr
  · rfl

theorem Reaches.ne_ready {told : List Outcome} {m : Moment σ}
    {r : Except FlowError Progress × Situation σ} {stage : Stage}
    (h : c.Reaches told m r stage) : stage ≠ .ready := by
  rintro rfl
  cases h.result

/-- The course is a chain of turns that comes to `stage`. -/
structure Follows (first : Moment σ) (k : Course σ) (stage : Stage) : Prop where
  /-- Turns lead to the situation of the course. -/
  turns : c.Turns k.told first ⟨stage, k.situation⟩
  /-- The result of the course is that of the stage. -/
  result : k.result? = stage.result?
  /-- The stage is one between two calls. -/
  agrees : stage.Agrees k.execution

/-- A call takes a course on by turns. -/
theorem Follows.extend {first : Moment σ} {k : Course σ} {stage : Stage}
    (h : c.Follows first k stage) (call : Call) :
    ∃ stage', c.Follows first (c.extend k call) stage' ∧
      (stage' = .ready ↔ stage = .ready ∧ call ≠ .start) := by
  rcases c.perform_turns call h.agrees with ⟨hr, hs, hn⟩ | ⟨hn, stage', hr⟩
  · -- The call is refused, and the course stays where it is.
    have hk : (c.extend k call).situation = k.situation := hs
    refine ⟨stage, ⟨?_, ?_, ?_⟩, fun hst => ⟨hst, hn hst⟩, fun hst => hst.1⟩
    · rw [told_extend, if_pos hr, hk]
      exact h.turns
    · rw [result?_extend, if_pos hr]
      exact h.result
    · rw [Course.execution, hk]
      exact h.agrees
  · -- The turns of the call come after those of the course.
    have hacc : ¬isRefused (c.perform call k.situation).1 = true := by simp [hr.not_refused]
    refine ⟨stage', ⟨?_, ?_, hr.agrees⟩, fun hst => absurd hst hr.ne_ready,
      fun hst => absurd (hn hst.1) hst.2⟩
    · rw [told_extend, if_neg hacc]
      exact h.turns.trans hr.turns
    · rw [result?_extend, if_neg hacc, hr.result]

theorem Follows.foldl {first : Moment σ} {k : Course σ} {stage : Stage}
    (h : c.Follows first k stage) (calls : List Call) :
    ∃ stage', c.Follows first (calls.foldl c.extend k) stage' ∧
      (stage' = .ready ↔ stage = .ready ∧ .start ∉ calls) := by
  induction calls generalizing k stage with
  | nil => exact ⟨stage, h, by simp⟩
  | cons call calls ih =>
    obtain ⟨stage₁, h₁, hr₁⟩ := h.extend call
    obtain ⟨stage₂, h₂, hr₂⟩ := ih h₁
    refine ⟨stage₂, h₂, ?_⟩
    rw [hr₂, hr₁, List.mem_cons, not_or, and_assoc, ne_comm]

/-- The moment before the first call for an attempt. -/
def outset (principal : Principal) (attributes : Attributes) (state : σ) : Moment σ :=
  ⟨.ready, ⟨.new principal attributes, state, []⟩⟩

/-- The course without calls stays at the outset. -/
theorem follows_outset (c : Controller σ) {principal : Principal} {attributes : Attributes}
    {state : σ} : c.Follows (outset principal attributes state)
      ⟨⟨.new principal attributes, state, []⟩, []⟩ .ready :=
  ⟨.refl, rfl, rfl⟩

/-- The course of an attempt is a chain of turns, whatever calls it consists of. -/
theorem course_turns (c : Controller σ) (calls : List Call) (principal : Principal)
    (attributes : Attributes) (state : σ) :
    ∃ stage, c.Follows (outset principal attributes state)
        (c.course calls (.new principal attributes) state) stage ∧
      (stage = .ready ↔ .start ∉ calls) := by
  obtain ⟨stage, hf, hr⟩ := c.follows_outset.foldl calls
  exact ⟨stage, hf, by rw [hr]; simp⟩

end Controller

end LoginGate
