import LoginGate.Proofs.Flow.Determinacy
import LoginGate.Proofs.Flow.Recording
import LoginGate.Proofs.Flow.Refusal
import LoginGate.Proofs.Flow.Report

/-!
# Attempts come to an end

A flow may lead in circles, and a continuation may put any number of steps into
the queue, so neither says how long an attempt goes on. What does is the number
of steps that it may still execute: every turn executes one, or is followed by
one that does or is the last.

* `left_lt_of_turn`: the measure that every turn lowers, so that turns come to an
  end (`wellFounded_turn`);
* `executed_le_of_turn`: no turn executes a step too many;
* `length_resumes_lt`: an attempt that is suspended has executed more steps than
  it was resumed since it was started;
* `step_bound`: what this says about a course.
-/

namespace LoginGate

/-- A bound for the number of turns to come: two for each step that may still be
    executed, and those that execute none. -/
def Moment.left {σ : Type} (m : Moment σ) : Nat :=
  2 * (maxSteps - m.execution.executed.length) +
    match m.stage with
    | .ready | .waiting _ => 2
    | .going => 1
    | .over _ => 0

namespace Controller

variable {σ : Type} {c : Controller σ} {told : Option Outcome}

/-! ### The measure -/

theorem Executes.length_executed {s s' : Situation σ} {p : Pending}
    {r : Except StepError StepStatus} (h : c.Executes s p r s') :
    s'.attempt.execution.executed.length = s.attempt.execution.executed.length + 1 ∧
      s'.attempt.execution.executed.length ≤ maxSteps := by
  obtain ⟨rest, -, hlen, -, rfl⟩ := h.exists_rest
  have hx : (c.executed s p rest).attempt.execution.executed.length =
      s.attempt.execution.executed.length + 1 := List.length_append
  exact ⟨hx, hx ▸ hlen⟩

theorem Ensues.left_le {p : Pending} {outcome : Outcome} {s : Situation σ} {m : Moment σ}
    (h : c.Ensues p outcome s m) :
    m.left ≤ 2 * (maxSteps - s.attempt.execution.executed.length) + 1 := by
  rw [Moment.left, Moment.execution, h.executed_eq]
  cases h <;> simp

/-- Every turn lowers the measure. Where a step is executed, it does so by two,
    one of which is given back if the step is suspended. -/
theorem left_lt_of_turn {m m' : Moment σ} (h : c.Turn told m m') : m'.left < m.left := by
  cases h with
  | start => exact Nat.lt_succ_self _
  | follow hr he =>
    have hle := he.left_le
    cases hr with
    | completed hx =>
      have hlen := hx.length_executed
      simp only [Moment.left, Moment.execution] at hle ⊢
      omega
    | resumed => exact Nat.lt_succ_of_le hle
  | suspend hx | crash hx =>
    have hlen := hx.length_executed
    simp only [Moment.left, Moment.execution, Situation.suspend, Situation.fail,
      Situation.withExecution, Situation.note]
    omega
  | exceed | conclude => exact Nat.lt_succ_self _

/-- There is no endless chain of turns. -/
theorem wellFounded_turn (c : Controller σ) :
    WellFounded fun m' m : Moment σ => ∃ told, c.Turn told m m' :=
  Subrelation.wf (fun ⟨_, h⟩ => left_lt_of_turn h) (InvImage.wf Moment.left Nat.lt_wfRel.wf)

/-! ### The bound -/

/-- An attempt executes no more steps than it may. -/
theorem executed_le_of_turn {m m' : Moment σ} (h : c.Turn told m m')
    (hm : m.execution.executed.length ≤ maxSteps) : m'.execution.executed.length ≤ maxSteps := by
  cases h with
  | follow hr he =>
    rw [Moment.execution, he.executed_eq]
    cases hr with
    | completed hx => exact hx.length_executed.2
    | resumed => exact hm
  | suspend hx | crash hx => exact hx.length_executed.2
  | start | exceed | conclude => exact hm

/-- A situation of an attempt: one between its turns, or one in which the
    executor has just replied. -/
inductive Occurs (c : Controller σ) (first : Moment σ) : Situation σ → Prop
  | between {told : List Outcome} {m : Moment σ} : c.Turns told first m → Occurs c first m.situation
  | replied {told : List Outcome} {s s' : Situation σ} {p : Pending}
    {r : Except StepError StepStatus} :
    c.Turns told first ⟨.going, s⟩ → c.Executes s p r s' → Occurs c first s'

theorem Occurs.length_executed_le {first : Moment σ} {s : Situation σ} (h : c.Occurs first s)
    (hfirst : first.execution.executed = []) : s.attempt.execution.executed.length ≤ maxSteps := by
  have hle : first.execution.executed.length ≤ maxSteps := by simp [hfirst]
  cases h with
  | between ht => exact ht.keeps (fun _ _ _ => executed_le_of_turn) hle
  | replied ht hx => exact hx.length_executed.2

/-- The executor was asked for the executed steps, at any time. -/
theorem Occurs.requests_eq {principal : Principal} {attributes : Attributes} {state : σ}
    {s : Situation (σ × Transcript)}
    (h : c.recording.Occurs (outset principal attributes (state, {})) s) :
    s.state.2.replies.map Prod.fst = s.attempt.execution.executed := by
  have hturns {told : List Outcome} {m : Moment (σ × Transcript)}
      (ht : c.recording.Turns told (outset principal attributes (state, {})) m) :
      Transcribed ([] ++ told) m.stage.dueReply m.situation :=
    ht.keeps_told (P := fun told m => Transcribed told m.stage.dueReply m.situation)
      (fun _ _ _ _ => transcribed_of_turn) ⟨rfl, ⟨[], rfl, rfl, rfl⟩, rfl⟩
  cases h with
  | between ht => exact (hturns ht).executed
  | replied ht hx => exact (transcribed_of_executes hx (hturns ht)).executed

/-! ### Courses at the bound -/

/-- In the course of an attempt that was started, as many steps as an attempt
    executes are executed in the situation `s`, and the next waiting step is due. -/
structure Fills (c : Controller σ) (first : Moment σ) (k : Course σ) (s : Situation σ) :
    Prop where
  /-- The attempt was started. -/
  started : k.result? ≠ none
  /-- The course leads through the situation, and the attempt is not resumed any more. -/
  turns : c.Turns k.told first ⟨.going, s⟩
  /-- As many steps as possible are executed. -/
  full : s.attempt.execution.executed.length = maxSteps

theorem Follows.isRest {first : Moment σ} {k : Course σ} {stage : Stage}
    (h : c.Follows first k stage) (hk : k.result? ≠ none) : stage.IsRest := by
  refine h.agrees.isRest ?_
  rintro rfl
  exact hk h.result

/-- The course stops where turns with the same outcomes stop. -/
theorem Follows.eq_of_turns {first m : Moment σ} {k : Course σ} {stage : Stage}
    (h : c.Follows first k stage) (hk : k.result? ≠ none) (ht : c.Turns k.told first m)
    (hm : m.stage.IsRest) : m = ⟨stage, k.situation⟩ :=
  ht.unique h.turns hm (h.isRest hk)

/-- No step is executed beyond the bound: the next turn is the last one. -/
theorem Fills.eq_advance {first : Moment σ} {k : Course σ} {stage : Stage} {s : Situation σ}
    (h : c.Fills first k s) (hf : c.Follows first k stage) :
    c.advance s = ⟨stage, k.situation⟩ := by
  have hturns : c.Turns (k.told ++ (none : Option Outcome).toList) first (c.advance s) :=
    h.turns.trans (.single (turn_advance s))
  rw [Option.toList_none, List.append_nil] at hturns
  refine hf.eq_of_turns h.started hturns ?_
  cases hp : s.attempt.execution.pending with
  | nil =>
    rw [advance_nil hp]
    trivial
  | cons p rest =>
    rw [advance_full hp (Nat.le_of_eq h.full.symm)]
    trivial

/-- If another step waits at the bound, the attempt fails, and the error names
    the step. -/
theorem Fills.result?_of_cons {first : Moment σ} {k : Course σ} {stage : Stage} {s : Situation σ}
    (h : c.Fills first k s) (hf : c.Follows first k stage) {p : Pending} {rest : List Pending}
    (hp : s.attempt.execution.pending = p :: rest) :
    k.result? = some (.error (.stepLimitExceeded p.step)) := by
  have hs : (c.advance s).stage = stage := congrArg Moment.stage (h.eq_advance hf)
  rw [hf.result, ← hs, advance_full hp (Nat.le_of_eq h.full.symm)]
  rfl

/-- If no other step waits, the attempt ends as it does below the bound. -/
theorem Fills.result?_of_nil {first : Moment σ} {k : Course σ} {stage : Stage} {s : Situation σ}
    (h : c.Fills first k s) (hf : c.Follows first k stage)
    (hp : s.attempt.execution.pending = []) :
    k.result? = some (.ok (.complete
      ⟨s.attempt.execution.executed, s.attempt.execution.lastOutcome.getD .failure⟩)) := by
  have hs : (c.advance s).stage = stage := congrArg Moment.stage (h.eq_advance hf)
  rw [hf.result, ← hs, advance_nil hp]
  rfl

theorem Fills.executed_eq {first : Moment σ} {k : Course σ} {stage : Stage} {s : Situation σ}
    (h : c.Fills first k s) (hf : c.Follows first k stage) :
    k.execution.executed = s.attempt.execution.executed := by
  have hk : k.situation = (c.advance s).situation :=
    (congrArg Moment.situation (h.eq_advance hf)).symm
  rw [Course.execution, hk]
  cases hp : s.attempt.execution.pending with
  | nil =>
    rw [advance_nil hp]
    rfl
  | cons p rest =>
    rw [advance_full hp (Nat.le_of_eq h.full.symm)]
    rfl

/-- An attempt fails for another step only in the turn in which that is due. -/
theorem Turn.of_exceeded {m : Moment σ} {s' : Situation σ} {step : StepId}
    (h : c.Turn told m ⟨.over (.error (.stepLimitExceeded step)), s'⟩) :
    told = none ∧ ∃ s p rest, m = ⟨.going, s⟩ ∧ s.attempt.execution.pending = p :: rest ∧
      maxSteps ≤ s.attempt.execution.executed.length ∧ p.step = step := by
  cases h with
  | follow _ he => cases he
  | exceed hp hlen => exact ⟨rfl, _, _, _, rfl, hp, hlen, rfl⟩

theorem Follows.fills_of_exceeded {principal : Principal} {attributes : Attributes} {state : σ}
    {k : Course σ} {stage : Stage}
    (h : c.Follows (outset principal attributes state) k stage) {step : StepId}
    (hr : k.result? = some (.error (.stepLimitExceeded step))) :
    ∃ s, c.Fills (outset principal attributes state) k s ∧
      ∃ p rest, s.attempt.execution.pending = p :: rest ∧ p.step = step := by
  obtain rfl := Stage.result?_eq_error_iff.1 (h.result.symm.trans hr)
  obtain ⟨-, hm⟩ | ⟨before, o, m, hbefore, hlast, htold⟩ := h.turns.last
  · cases congrArg Moment.stage hm
  · obtain ⟨rfl, s, p, rest, rfl, hp, hlen, hstep⟩ := hlast.of_exceeded
    rw [Option.toList_none, List.append_nil] at htold
    have hle : s.attempt.execution.executed.length ≤ maxSteps :=
      (Occurs.between hbefore).length_executed_le rfl
    exact ⟨s, ⟨by simp [hr], htold ▸ hbefore, Nat.le_antisymm hle hlen⟩, p, rest, hp, hstep⟩

/-! ### Courses -/

/-- The attempt is resumed with no more outcomes than steps have reported. -/
theorem told_le_of_turn {before : List Outcome} {m m' : Moment σ} (h : c.Turn told m m')
    (hm : before.length ≤ m.situation.answers.length) :
    (before ++ told.toList).length ≤ m'.situation.answers.length := by
  have hle : m.situation.answers.length ≤ m'.situation.answers.length := (view_of_turn h).length_le
  cases h with
  | @follow o _ _ p outcome s hr he =>
    have ha : s.answers = m.situation.answers := hr.view_eq fun _ => rfl
    rw [he.answers_eq, ha, List.length_append, List.length_append]
    exact Nat.add_le_add hm Option.length_toList_le
  | start | suspend | crash | exceed | conclude =>
    rw [Option.toList_none, List.append_nil]
    exact Nat.le_trans hm hle

/-- An attempt that is suspended has executed more steps than there are outcomes
    that calls have given since it was started. -/
theorem length_resumes_lt (c : Controller σ) (before after : List Call) (principal : Principal)
    (attributes : Attributes) (state : σ) {step : StepId}
    (h : (c.course (before ++ .start :: after) (.new principal attributes) state).execution.state =
      .suspended step) :
    (resumes after).length <
      (c.course (before ++ .start :: after) (.new principal attributes)
        state).execution.executed.length := by
  obtain ⟨stage₀, h₀, hready⟩ := c.course_turns (before ++ [.start]) principal attributes state
  have hcourse : c.course (before ++ .start :: after) (.new principal attributes) state =
      after.foldl c.extend (c.course (before ++ [.start]) (.new principal attributes) state) := by
    rw [← course_append, List.append_assoc]
    rfl
  have htold := h₀.told_of_suspended (fun hr => hready.1 hr (by simp)) (hcourse ▸ h)
  rw [← hcourse] at htold
  -- Each of those outcomes is reported, and the last step has not reported yet.
  obtain ⟨stage, hf, -⟩ :=
    c.course_turns (before ++ .start :: after) principal attributes state
  have hle : ([] ++ _ : List Outcome).length ≤ _ :=
    hf.turns.keeps_told (P := fun told m => told.length ≤ m.situation.answers.length)
      (fun _ _ _ _ => told_le_of_turn) (Nat.zero_le _)
  have hacc := hf.turns.keeps (fun _ _ _ => account_of_turn) ⟨rfl, fun _ => rfl⟩
  obtain ⟨p, rfl, -, -⟩ := hf.agrees.waiting h
  have hlen := hacc.answers
  rw [htold, List.nil_append, List.length_append] at hle
  simp only [Stage.due, Moment.execution, Course.execution] at hlen hle ⊢
  omega

/-- Whatever calls an attempt is taken through, each of them comes to an end: its
    turns, which take no account of how many are left, are never endless, and
    its result is that of the stage they lead to. At any time, the executed
    steps are those that the executor was asked for, and no more than
    `maxSteps`. When they are as many, and the next waiting step is due, the
    attempt fails with an error that names it, without executing it; it ends
    without an error if none waits. -/
theorem step_bound (c : Controller σ) (calls : List Call) (principal : Principal)
    (attributes : Attributes) (state : σ) :
    let k := c.course calls (.new principal attributes) state
    let t := c.transcript calls (.new principal attributes) state
    let first := outset principal attributes state
    (WellFounded fun m' m : Moment σ => ∃ told, c.Turn told m m') ∧
      (∃ stage, c.Follows first k stage) ∧
      (k.execution.executed.length ≤ maxSteps ∧ t.replies.map Prod.fst = k.execution.executed) ∧
      (∀ s, c.recording.Occurs (outset principal attributes (state, {})) s →
        s.attempt.execution.executed.length ≤ maxSteps ∧
        s.state.2.replies.map Prod.fst = s.attempt.execution.executed) ∧
      (∀ step, k.result? = some (.error (.stepLimitExceeded step)) ↔
        ∃ s, c.Fills first k s ∧
          ∃ p rest, s.attempt.execution.pending = p :: rest ∧ p.step = step) ∧
      ∀ s, c.Fills first k s → k.execution.executed = s.attempt.execution.executed ∧
        (s.attempt.execution.pending = [] → ∃ outcome,
          s.attempt.execution.lastOutcome = some outcome ∧
          k.result? = some (.ok (.complete ⟨s.attempt.execution.executed, outcome⟩))) := by
  intro k t first
  obtain ⟨stage, h, -⟩ := c.course_turns calls principal attributes state
  refine ⟨c.wellFounded_turn, ⟨stage, h⟩, ⟨?_, ?_⟩, fun s hs => ⟨?_, hs.requests_eq⟩,
    fun step => ⟨h.fills_of_exceeded, ?_⟩, fun s hs => ⟨hs.executed_eq h, fun hp => ?_⟩⟩
  · exact (Occurs.between h.turns).length_executed_le rfl
  · exact (c.transcript_of_course calls principal attributes state).1
  · exact hs.length_executed_le rfl
  · rintro ⟨s, hs, p, rest, hp, rfl⟩
    exact hs.result?_of_cons h hp
  · -- At the bound some step has reported, so there is a last outcome.
    obtain ⟨-, outcome, -, ho⟩ := (recount_of_turns hs.turns).exists_last hp
    exact ⟨outcome, ho, by rw [hs.result?_of_nil h hp, ho]; rfl⟩

end Controller

/-- A flow whose entry schedules so many steps. -/
def fan (later : Nat) : FlowDefinition where
  steps := [(StepDescriptor.plain ⟨"1"⟩).on .success (.execute (List.replicate later ⟨"2"⟩))]
  nonempty := nofun
  distinct := by simp
  gates_le_one := Nat.zero_le _

/-- That flow where all steps report success. -/
def fanController (later : Nat) : Controller Unit where
  definition := fan later
  executor := ⟨fun _ attempt s => ⟨.ok (.completed .success), attempt.attributes, s⟩⟩
  registry :=
    { count := fun _ s => (.ok 0, s)
      list := fun _ s => (.ok [], s)
      ping := fun s => (.reached, s) }

-- The last step that fits is executed, and the one after it is named.
example : ((fanController 63).course [.start] (.new ⟨"bob", by decide⟩) ()).result? =
    some (.ok (.complete ⟨⟨"1"⟩ :: List.replicate 63 ⟨"2"⟩, .success⟩)) := rfl

example : ((fanController 64).course [.start] (.new ⟨"bob", by decide⟩) ()).result? =
    some (.error (.stepLimitExceeded ⟨"2"⟩)) := rfl

end LoginGate
