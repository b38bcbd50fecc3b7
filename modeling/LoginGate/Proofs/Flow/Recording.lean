import LoginGate.Proofs.Flow.Likeness
import LoginGate.Proofs.Flow.Queue

/-!
# What the surroundings said

The events of a course are what the controller makes of the replies that it
gets. To tell them from the replies themselves, a controller may be given an
executor and a registry that also write down what they are asked and what they
reply. This changes nothing about a course (`forget_recording`), and the
*transcript* of a course is what they have written in the end.

* `transcript_of_course`: the executor was asked for the executed steps and for
  no others, and the answers among the events are its replies, with the outcome
  that the attempt was resumed with in place of each suspension.
-/

namespace LoginGate

/-- What executor and registry were asked, and what they replied. -/
structure Transcript where
  /-- The steps that the executor was asked for, with its replies. -/
  replies : List (StepId × Except StepError StepStatus) := []
  /-- The principals that the registry was asked about, with its replies. -/
  counts : List (Principal × Except RegistryError Nat) := []

namespace Transcript

/-- The transcript after one more reply of the executor. -/
def reply (t : Transcript) (step : StepId) (result : Except StepError StepStatus) : Transcript :=
  { t with replies := t.replies ++ [(step, result)] }

/-- The transcript after more counts of the registry. -/
def count (t : Transcript) (readings : List Reading) : Transcript :=
  { t with counts := t.counts ++ readings.map fun r => (r.principal, r.answer) }

theorem count_nil (t : Transcript) : t.count [] = t := by
  rw [count, List.map_nil, List.append_nil]

end Transcript

/-- What steps came to, given the replies of the executor and the outcomes that
    the attempt was resumed with: of these, each suspension takes the next. -/
def comeTo : List (Except StepError StepStatus) → List Outcome → List (Except StepError Outcome)
  | [], _ => []
  | .error cause :: replies, told => .error cause :: comeTo replies told
  | .ok (.completed outcome) :: replies, told => .ok outcome :: comeTo replies told
  | .ok .suspended :: _, [] => []
  | .ok .suspended :: replies, outcome :: told => .ok outcome :: comeTo replies told

/-- What steps came to is an error only where the executor replied it. -/
theorem mem_of_mem_comeTo {replies : List (Except StepError StepStatus)} {told : List Outcome}
    {cause : StepError} (h : .error cause ∈ comeTo replies told) : .error cause ∈ replies := by
  induction replies generalizing told with
  | nil => cases h
  | cons reply replies ih =>
    rcases reply with e | outcome | _
    · rcases List.mem_cons.1 h with he | h
      · cases he
        exact List.mem_cons_self
      · exact List.mem_cons_of_mem _ (ih h)
    · rcases List.mem_cons.1 h with he | h
      · cases he
      · exact List.mem_cons_of_mem _ (ih h)
    · cases told with
      | nil => cases h
      | cons outcome told =>
        rcases List.mem_cons.1 h with he | h
        · cases he
        · exact List.mem_cons_of_mem _ (ih h)

/-- How many steps were suspended. -/
def suspensions : List (Except StepError StepStatus) → Nat
  | [] => 0
  | .ok .suspended :: replies => suspensions replies + 1
  | _ :: replies => suspensions replies

theorem comeTo_append {replies : List (Except StepError StepStatus)} {told : List Outcome}
    (h : suspensions replies = told.length) (replies' : List (Except StepError StepStatus))
    (told' : List Outcome) :
    comeTo (replies ++ replies') (told ++ told') =
      comeTo replies told ++ comeTo replies' told' := by
  induction replies generalizing told with
  | nil =>
    obtain rfl : told = [] := List.length_eq_zero_iff.1 h.symm
    rfl
  | cons reply replies ih =>
    rcases reply with cause | outcome | _
    · exact congrArg (List.cons _) (ih h)
    · exact congrArg (List.cons _) (ih h)
    · -- A suspension takes the first outcome, and by `h` there is one.
      cases told with
      | nil => cases h
      | cons outcome told => exact congrArg (List.cons _) (ih (Nat.succ.inj h))

theorem suspensions_append (replies replies' : List (Except StepError StepStatus)) :
    suspensions (replies ++ replies') = suspensions replies + suspensions replies' := by
  induction replies with
  | nil => exact (Nat.zero_add _).symm
  | cons reply replies ih =>
    rcases reply with cause | outcome | _
    · exact ih
    · exact ih
    · show suspensions (replies ++ replies') + 1 = suspensions replies + 1 + suspensions replies'
      rw [ih]
      omega

namespace Controller

variable {σ : Type}

/-- The controller with an executor and a registry that write down what they
    are asked and what they reply. -/
def recording (c : Controller σ) : Controller (σ × Transcript) where
  definition := c.definition
  executor := ⟨fun step attempt s =>
    let reply := c.executor.execute step attempt s.1
    ⟨reply.result, reply.attributes,
      (reply.state, s.2.reply step reply.result)⟩⟩
  registry :=
    { count := fun principal s =>
        let r := c.registry.count principal s.1
        (r.1, (r.2, { s.2 with counts := s.2.counts ++ [(principal, r.1)] }))
      list := fun principal s =>
        let r := c.registry.list principal s.1
        (r.1, (r.2, s.2))
      ping := fun s =>
        let r := c.registry.ping s.1
        (r.1, (r.2, s.2)) }

end Controller

/-- The situation without what was written down. -/
def Situation.forget {σ : Type} (s : Situation (σ × Transcript)) : Situation σ :=
  { s with state := s.state.1 }

/-- The course without what was written down. -/
def Course.forget {σ : Type} (k : Course (σ × Transcript)) : Course σ :=
  { k with situation := k.situation.forget }

namespace Controller

variable {σ : Type} (c : Controller σ)

/-- What executor and registry are asked and reply in a course. -/
def transcript (calls : List Call) (attempt : Attempt) (state : σ) : Transcript :=
  (c.recording.course calls attempt (state, {})).situation.state.2

/-! ### Recording changes nothing -/

/-- Evaluating the limit says the same, and the count is written down. -/
theorem evaluateAttempt_recording (a : Attempt) (s : σ × Transcript) :
    c.recording.registry.evaluateAttempt a s =
      { c.registry.evaluateAttempt a s.1 with
        state := ((c.registry.evaluateAttempt a s.1).state,
          s.2.count (c.registry.evaluateAttempt a s.1).reading.toList) } := by
  simp only [Registry.evaluateAttempt, Registry.evaluate, Registry.evaluateSetting]
  -- The registry is asked only where the limit can be read.
  split
  · rw [Registry.evaluateLimit_eq, Registry.evaluateLimit_eq]
    rfl
  · rw [Option.toList_none, Transcript.count_nil]

theorem evaluationAt_recording (gate : SessionLimitGate) (s : Situation (σ × Transcript)) :
    c.recording.evaluationAt gate s =
      { c.evaluationAt gate s.forget with
        state := ((c.evaluationAt gate s.forget).state,
          s.state.2.count (c.evaluationAt gate s.forget).reading.toList) } :=
  c.evaluateAttempt_recording _ _

theorem mirrors_recording : c.recording.Mirrors c Prod.fst where
  definition := rfl
  execute _ _ _ := rfl
  count _ _ := rfl

/-- A course is the same when it is recorded. -/
theorem forget_recording (calls : List Call) (attempt : Attempt) (state : σ) (t : Transcript) :
    (c.recording.course calls attempt (state, t)).forget = c.course calls attempt state :=
  (c.mirrors_recording.course calls attempt (state, t)).symm

end Controller

/-! ### What is written down -/

/-- The reply that came last, if its outcome is due. -/
def Stage.dueReply : Stage → List (Except StepError StepStatus)
  | .waiting _ => [.ok .suspended]
  | _ => []

theorem Stage.comeTo_dueReply (stage : Stage) : comeTo stage.dueReply [] = [] := by
  cases stage <;> rfl

/-- The transcript of an attempt that was resumed with the outcomes `told`
    agrees with its events, except that they do not tell of the replies `due`,
    which came last. -/
structure Transcribed {σ : Type} (told : List Outcome) (due : List (Except StepError StepStatus))
    (s : Situation (σ × Transcript)) : Prop where
  /-- The executor was asked for the executed steps. -/
  executed : s.state.2.replies.map Prod.fst = s.attempt.execution.executed
  /-- The answers are its replies. -/
  answers : ∃ replies, s.state.2.replies.map Prod.snd = replies ++ due ∧
    suspensions replies = told.length ∧ comeTo replies told = s.answers
  /-- The registry was asked for the counts among the events. -/
  counts : s.state.2.counts = s.readings.map fun r => (r.principal, r.answer)

/-- The same when an outcome was reported, which the events do not tell yet. -/
structure Reported {σ : Type} (told : List Outcome) (outcome : Outcome)
    (s : Situation (σ × Transcript)) : Prop where
  /-- The executor was asked for the executed steps. -/
  executed : s.state.2.replies.map Prod.fst = s.attempt.execution.executed
  /-- No outcome is due. -/
  due : suspensions (s.state.2.replies.map Prod.snd) = told.length
  /-- The answers are its replies, and the outcome is the next one. -/
  answers : comeTo (s.state.2.replies.map Prod.snd) told = s.answers ++ [.ok outcome]
  /-- The registry was asked for the counts among the events. -/
  counts : s.state.2.counts = s.readings.map fun r => (r.principal, r.answer)

namespace Controller

variable {σ : Type} {c : Controller σ}

/-- A reply of the executor is written down. -/
theorem Executes.transcript_eq {s s' : Situation (σ × Transcript)} {p : Pending}
    {r : Except StepError StepStatus} (h : c.recording.Executes s p r s') :
    s'.state.2 = s.state.2.reply p.step r := by
  cases h with
  | mk => rfl

theorem evaluationAt_transcript (gate : SessionLimitGate) (s : Situation (σ × Transcript)) :
    (c.recording.evaluationAt gate s).state.2 =
      s.state.2.count (c.recording.evaluationAt gate s).reading.toList := by
  rw [evaluationAt_recording]

/-- While an outcome is followed, only counts are written down. -/
theorem Ensues.transcript_eq {s : Situation (σ × Transcript)} {p : Pending} {outcome : Outcome}
    {m : Moment (σ × Transcript)} (h : c.recording.Ensues p outcome s m) :
    ∃ readings, m.situation.readings = s.readings ++ readings ∧
      m.situation.state.2 = s.state.2.count readings := by
  cases h with
  | @pass gate =>
    refine ⟨(c.recording.evaluationAt gate (s.report p.step outcome)).reading.toList, ?_,
      evaluationAt_transcript gate (s.report p.step outcome)⟩
    simp [Situation.readings, FlowEvent.reading?]
  | @refuse gate =>
    refine ⟨(c.recording.evaluationAt gate (s.report p.step outcome)).reading.toList, ?_,
      evaluationAt_transcript gate (s.report p.step outcome)⟩
    simp [Situation.readings, FlowEvent.reading?]
  | next | last | rest | execute | again | route =>
    exact ⟨[], by simp [Situation.readings, FlowEvent.reading?], (s.state.2.count_nil).symm⟩

theorem Ensues.dueReply_eq {s : Situation σ} {p : Pending} {outcome : Outcome} {m : Moment σ}
    (h : c.Ensues p outcome s m) : m.stage.dueReply = [] := by
  cases h <;> rfl

/-- After a step was executed, the reply is due. -/
theorem transcribed_of_executes {told : List Outcome} {s s' : Situation (σ × Transcript)}
    {p : Pending} {r : Except StepError StepStatus} (h : c.recording.Executes s p r s')
    (hs : Transcribed told [] s) : Transcribed told [r] s' := by
  obtain ⟨replies, hr, hdue, hans⟩ := hs.answers
  have ha : s'.answers = s.answers := h.view_eq fun _ => rfl
  have hc : s'.readings = s.readings := h.view_eq fun _ => rfl
  refine ⟨?_, ⟨replies, ?_, hdue, hans.trans ha.symm⟩, ?_⟩
  · rw [h.transcript_eq, h.executed_eq, ← hs.executed]
    exact List.map_append
  · rw [h.transcript_eq, ← List.append_nil replies, ← hr]
    exact List.map_append
  · rw [h.transcript_eq, hc, ← hs.counts]
    rfl

theorem reported_of_reports {before : List Outcome} {told : Option Outcome}
    {m : Moment (σ × Transcript)} {p : Pending} {outcome : Outcome}
    {s : Situation (σ × Transcript)} (h : c.recording.Reports told m p outcome s)
    (hm : Transcribed before m.stage.dueReply m.situation) :
    Reported (before ++ told.toList) outcome s := by
  cases h with
  | @completed s₀ s p outcome hx =>
    -- The reply that came last tells the outcome itself.
    have hs := transcribed_of_executes hx hm
    obtain ⟨replies, hr, hdue, hans⟩ := hs.answers
    refine ⟨hs.executed, ?_, ?_, hs.counts⟩
    · rw [hr, suspensions_append, hdue, List.length_append]
      rfl
    · rw [hr, comeTo_append hdue, hans]
      rfl
  | @resumed s p outcome =>
    -- The outcome takes the place of the suspension that came last.
    obtain ⟨replies, hr, hdue, hans⟩ := hm.answers
    have hr : s.wake.state.2.replies.map Prod.snd = replies ++ [.ok .suspended] := hr
    refine ⟨hm.executed, ?_, ?_, hm.counts⟩
    · rw [hr, suspensions_append, hdue, List.length_append]
      rfl
    · rw [hr, comeTo_append hdue, hans]
      rfl

theorem transcribed_of_ensues {told : List Outcome} {s : Situation (σ × Transcript)} {p : Pending}
    {outcome : Outcome} {m : Moment (σ × Transcript)} (h : c.recording.Ensues p outcome s m)
    (hs : Reported told outcome s) : Transcribed told m.stage.dueReply m.situation := by
  obtain ⟨readings, hreadings, ht⟩ := h.transcript_eq
  have hreplies : m.situation.state.2.replies = s.state.2.replies := by rw [ht]; rfl
  refine ⟨?_, ⟨_, ?_, hs.due, ?_⟩, ?_⟩
  · rw [hreplies, h.executed_eq, hs.executed]
  · rw [hreplies, h.dueReply_eq, List.append_nil]
  · rw [hs.answers, h.answers_eq]
  · rw [ht, hreadings, List.map_append, ← hs.counts]
    rfl

/-- A reply that is no suspension is no longer due when the events tell it. -/
theorem transcribed_of_crash {told : List Outcome} {s : Situation (σ × Transcript)} {p : Pending}
    {cause : StepError} (hs : Transcribed told [.error cause] s) :
    Transcribed told [] (s.fail (.step p.step cause)) := by
  obtain ⟨replies, hr, hdue, hans⟩ := hs.answers
  have ha : (s.fail (.step p.step cause)).answers = s.answers ++ [.error cause] :=
    Situation.view_fail _
  have hc : (s.fail (.step p.step cause)).readings = s.readings :=
    Situation.view_fail_of_none rfl
  refine ⟨hs.executed, ⟨replies ++ [.error cause], ?_, ?_, ?_⟩, hc ▸ hs.counts⟩
  · rw [List.append_nil]
    exact hr
  · rw [suspensions_append, hdue]
    rfl
  · have hcome := comeTo_append hdue [.error cause] []
    rw [List.append_nil] at hcome
    rw [hcome, hans, ha]
    rfl

/-- A reply is due until its outcome is told, be it by the surroundings. -/
theorem transcribed_of_turn {before : List Outcome} {told : Option Outcome}
    {m m' : Moment (σ × Transcript)} (h : c.recording.Turn told m m')
    (hm : Transcribed before m.stage.dueReply m.situation) :
    Transcribed (before ++ told.toList) m'.stage.dueReply m'.situation := by
  cases h with
  | start =>
    rw [Option.toList_none, List.append_nil]
    exact ⟨hm.executed, hm.answers, hm.counts⟩
  | follow hr he => exact transcribed_of_ensues he (reported_of_reports hr hm)
  | @suspend s s' p hx =>
    rw [Option.toList_none, List.append_nil]
    have hs := transcribed_of_executes hx hm
    have ha : (s'.suspend p).answers = s'.answers := Situation.view_suspend_of_none rfl
    have hc : (s'.suspend p).readings = s'.readings := Situation.view_suspend_of_none rfl
    exact ⟨hs.executed, ha ▸ hs.answers, hc ▸ hs.counts⟩
  | crash hx =>
    rw [Option.toList_none, List.append_nil]
    exact transcribed_of_crash (transcribed_of_executes hx hm)
  | @exceed s p =>
    rw [Option.toList_none, List.append_nil]
    have ha : (s.fail (.stepLimitExceeded p.step)).answers = s.answers :=
      Situation.view_fail_of_none rfl
    have hc : (s.fail (.stepLimitExceeded p.step)).readings = s.readings :=
      Situation.view_fail_of_none rfl
    exact ⟨hm.executed, ha ▸ hm.answers, hc ▸ hm.counts⟩
  | conclude =>
    rw [Option.toList_none, List.append_nil]
    exact ⟨hm.executed, hm.answers, hm.counts⟩

/-- The transcript of a course agrees with its events. -/
theorem transcribed_of_course (c : Controller σ) (calls : List Call) (principal : Principal)
    (attributes : Attributes) (state : σ) :
    ∃ stage : Stage, stage.Agrees (c.course calls (.new principal attributes) state).execution ∧
      Transcribed (c.course calls (.new principal attributes) state).told stage.dueReply
        (c.recording.course calls (.new principal attributes) (state, {})).situation := by
  obtain ⟨stage, h, -⟩ := c.recording.course_turns calls principal attributes (state, {})
  have ht : Transcribed ([] ++ _) stage.dueReply _ :=
    h.turns.keeps_told (P := fun told m => Transcribed told m.stage.dueReply m.situation)
      (fun _ _ _ _ => transcribed_of_turn) ⟨rfl, ⟨[], rfl, rfl, rfl⟩, rfl⟩
  rw [← c.forget_recording calls _ state {}]
  exact ⟨stage, h.agrees, ht⟩

/-- Executor and registry were asked and replied what the events of a course
    tell. -/
theorem transcript_of_course (c : Controller σ) (calls : List Call) (principal : Principal)
    (attributes : Attributes) (state : σ) :
    let k := c.course calls (.new principal attributes) state
    let t := c.transcript calls (.new principal attributes) state
    t.replies.map Prod.fst = k.execution.executed ∧
      comeTo (t.replies.map Prod.snd) k.told = k.situation.answers ∧
      t.counts = k.situation.readings.map fun r => (r.principal, r.answer) := by
  intro k t
  obtain ⟨stage, -, ht⟩ := c.transcribed_of_course calls principal attributes state
  have hk : (c.recording.course calls (.new principal attributes) (state, {})).forget = k :=
    c.forget_recording calls _ state {}
  have hanswers : k.situation.answers = _ := congrArg (fun k => k.situation.answers) hk.symm
  obtain ⟨replies, hr, hdue, hans⟩ := ht.answers
  refine ⟨?_, ?_, ?_⟩
  · rw [← hk]
    exact ht.executed
  · -- A suspension that is still due comes to nothing.
    have hcome := comeTo_append hdue stage.dueReply []
    rw [← hr, List.append_nil, stage.comeTo_dueReply, List.append_nil, hans] at hcome
    exact hcome.trans hanswers.symm
  · rw [← hk]
    exact ht.counts

/-- When an attempt is suspended, the reply that came last is a suspension. -/
theorem suspended_of_course (c : Controller σ) (calls : List Call) (principal : Principal)
    (attributes : Attributes) (state : σ) {step : StepId}
    (h : (c.course calls (.new principal attributes) state).execution.state = .suspended step) :
    ((c.transcript calls (.new principal attributes) state).replies.map Prod.snd).getLast? =
      some (.ok .suspended) := by
  obtain ⟨stage, hagrees, ht⟩ := c.transcribed_of_course calls principal attributes state
  obtain ⟨p, rfl, -⟩ := hagrees.waiting h
  obtain ⟨replies, hr, -⟩ := ht.answers
  rw [transcript, hr]
  exact List.getLast?_concat

end Controller

end LoginGate
