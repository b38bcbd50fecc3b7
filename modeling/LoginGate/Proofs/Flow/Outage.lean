import LoginGate.Proofs.Flow.Failure
import LoginGate.Proofs.Registry.Analytics

/-!
# Outages of the analytics service

A flow may have its sessions counted by the analytics service. The service may
reply anything, and only a count lets an attempt past the gate; everything else
makes the attempt fail at the gate, where the next thing that happens is its end.

To tell what the service was asked, its transport may be watched, which writes
down each exchange next to the state.

* `Ensues.asksOnce`: while an outcome is followed, there is one count at most;
* `answered_of_turn`: a count without an answer ends the attempt;
* `exchanged_of_turn`: the exchanges with the service are those of the counts;
* `Analytics.counting_fails_closed`: what follows for the calls of an attempt.
-/

namespace LoginGate

variable {σ : Type}

namespace Controller

variable {c : Controller σ} {told : Option Outcome}

/-! ### Counts without an answer -/

/-- From the situation to the moment the registry is asked for one count at most, and
    if there is no answer, the attempt has failed at the step. -/
def AsksOnce (c : Controller σ) (step : StepId) (s : Situation σ) (m : Moment σ) : Prop :=
  (m.situation.readings = s.readings ∧ m.situation.state = s.state) ∨
    ∃ r : Reading, m.situation.readings = s.readings ++ [r] ∧
      c.registry.count r.principal s.state = (r.answer, m.situation.state) ∧
      ∀ cause, r.answer = .error cause →
        m.stage = .over (.error (.policy step (.registry cause)))

/-- The registry is asked once at most by what an evaluation at the gate leads to. -/
theorem asksOnce_of_evaluationAt {gate : SessionLimitGate} {step : StepId} {outcome : Outcome}
    {s : Situation σ} {m : Moment σ} {evaluation : Evaluation σ}
    (h : c.evaluationAt gate (s.report step outcome) = evaluation)
    (hread : m.situation.readings = s.readings ++ evaluation.reading.toList)
    (hstate : m.situation.state = evaluation.state)
    (hfail : ∀ cause, evaluation.result = .error (.registry cause) →
      m.stage = .over (.error (.policy step (.registry cause)))) : c.AsksOnce step s m := by
  rw [evaluationAt_eq] at h
  split at h
  · next limit _ =>
    rw [Registry.evaluateLimit_eq] at h
    subst h
    refine .inr ⟨_, hread, Prod.ext rfl hstate.symm, fun cause hcause => hfail cause ?_⟩
    dsimp only at hcause ⊢
    rw [hcause]
  · subst h
    exact .inl ⟨hread.trans (List.append_nil _), hstate⟩

/-- While an outcome is followed, the registry is asked once at most. -/
theorem Ensues.asksOnce {p : Pending} {outcome : Outcome} {s : Situation σ} {m : Moment σ}
    (h : c.Ensues p outcome s m) : c.AsksOnce p.step s m := by
  cases h with
  | next | last | rest | execute | again | route =>
    exact .inl ⟨by simp [Situation.readings, FlowEvent.reading?], rfl⟩
  | pass _ _ hr =>
    refine asksOnce_of_evaluationAt rfl (by simp [Situation.readings, FlowEvent.reading?]) rfl ?_
    intro cause hcause
    exact absurd (hr.symm.trans hcause) (by simp)
  | refuse _ _ hr =>
    refine asksOnce_of_evaluationAt rfl (by simp [Situation.readings, FlowEvent.reading?]) rfl ?_
    intro cause hcause
    rw [Except.error.inj (hr.symm.trans hcause)]

/-- Every count without an answer has ended the attempt. -/
def Answered (m : Moment σ) : Prop :=
  ∀ r ∈ m.situation.readings, ∀ cause, r.answer = .error cause →
    ∃ step, m.stage = .over (.error (.policy step (.registry cause)))

/-- No turn begins where an attempt is over. -/
theorem Turn.not_over {m m' : Moment σ} (h : c.Turn told m m')
    (result : Except FlowError FlowReport) : m.stage ≠ .over result := by
  cases h with
  | follow hr => cases hr <;> nofun
  | start | suspend | crash | exceed | conclude => nofun

theorem answered_of_turn {m m' : Moment σ} (h : c.Turn told m m') (hm : Answered m) :
    Answered m' := by
  have hbefore (r : Reading) (hr : r ∈ m.situation.readings) (cause : RegistryError) :
      r.answer ≠ .error cause := by
    intro hcause
    obtain ⟨step, hstep⟩ := hm r hr cause hcause
    exact h.not_over _ hstep
  intro r hr cause hcause
  obtain ⟨p, outcome, s, hreports, hensues⟩ | ⟨-, -, -, -, hviews⟩ := h.follows_or_quiet
  · have hs : s.readings = m.situation.readings := hreports.views_eq.2.1
    obtain ⟨hread, -⟩ | ⟨last, hread, -, hfail⟩ := hensues.asksOnce
    · exact absurd hcause (hbefore r (hs ▸ hread ▸ hr) cause)
    · rw [hread, hs] at hr
      rcases List.mem_append.1 hr with hr | hr
      · exact absurd hcause (hbefore r hr cause)
      · obtain rfl := List.mem_singleton.1 hr
        exact ⟨p.step, hfail cause hcause⟩
  · have hread : m'.situation.readings = m.situation.readings :=
      hviews _ (fun _ => rfl) (fun _ => rfl) (fun _ => rfl)
    exact absurd hcause (hbefore r (hread ▸ hr) cause)

end Controller

/-- The attempt has failed at the gate, where the step arrived last, because the
    registry has no count. Nothing has happened since, and nothing came of the
    evaluation. -/
structure Course.FailsClosed (k : Course σ) (step : StepId) (cause : RegistryError) : Prop where
  /-- The error is that of the registry. -/
  result : k.result? = some (.error (.policy step (.registry cause)))
  /-- The attempt has failed. -/
  failed : k.execution.state = .failed
  /-- No step waits. -/
  pending : k.execution.pending = []
  /-- The step is the last one that was executed. -/
  last : k.execution.executed.getLast? = some step
  /-- After its report, the registry was asked, and the attempt failed. -/
  events : ∃ before outcome reading, k.situation.events =
    before ++ [.reported step outcome, .counted reading, .failed (.policy step (.registry cause))]
  /-- There is no diagnostic. -/
  diagnostics : k.situation.diagnostics = []
  /-- There is no verdict but the error. -/
  verdicts : k.situation.verdicts = [.error (.registry cause)]

/-- A count without an answer makes an attempt fail. -/
theorem Controller.Follows.failsClosed {c : Controller σ} {principal : Principal}
    {attributes : Attributes} {state : σ} {k : Course σ} {stage : Stage}
    (h : c.Follows (outset principal attributes state) k stage) {r : Reading}
    (hr : k.situation.readings = [r]) {cause : RegistryError} (hcause : r.answer = .error cause) :
    ∃ step, stage = .over (.error (.policy step (.registry cause))) ∧ k.FailsClosed step cause := by
  have hg := gauge_of_follows h
  have hanswered : Answered ⟨stage, k.situation⟩ :=
    h.turns.keeps (fun _ _ _ => answered_of_turn) nofun
  have hverdicts : k.situation.verdicts = k.situation.readings.map Reading.verdict ++
      stage.uncounted := h.turns.keeps (fun _ _ _ => verdicts_of_turn) rfl
  have hqueue := h.turns.keeps (fun _ _ _ => order_of_turn) rfl
  obtain ⟨step, rfl⟩ := hanswered r (hr ▸ List.mem_singleton_self r) cause hcause
  obtain ⟨s, hs, hfail, -⟩ := h.causes
  refine ⟨step, rfl, h.result, h.agrees.1, hqueue, ?_, ?_, ?_, ?_⟩
  · cases hs with
    | outage hlast => rwa [Course.execution, hfail]
  · cases hs with
    | @outage before _ outcome _ reading _ _ _ hevents =>
      refine ⟨before, outcome, reading, ?_⟩
      rw [hfail, Situation.fail, Situation.withExecution, Situation.note]
      dsimp only
      rw [hevents, List.append_assoc]
      rfl
  · rw [hg.diagnostics, hr, List.filterMap_cons_none (by rw [Reading.diagnostic?, hcause])]
    rfl
  · rw [hverdicts, hr, List.map_singleton, Reading.verdict, hcause]
    rfl

/-! ### Exchanges with the service -/

/-- A question and what came back. -/
structure Http.Exchange where
  /-- The question. -/
  inquiry : Http.Inquiry
  /-- What came back. -/
  reply : Http.Reply

/-- The transport that also writes down its exchanges. -/
def Http.Transport.watched (t : Http.Transport σ) : Http.Transport (σ × List Http.Exchange) :=
  fun inquiry s =>
    let r := t inquiry s.1
    (r.1, (r.2, s.2 ++ [⟨inquiry, r.1⟩]))

/-- The executor next to something that it has nothing to do with. -/
def Executor.beside {ω : Type} (e : Executor σ) : Executor (σ × ω) where
  execute step attempt s :=
    let reply := e.execute step attempt s.1
    ⟨reply.result, reply.attributes, (reply.state, s.2)⟩

namespace Analytics

variable [Http.Charsets] (a : Analytics) (d : FlowDefinition) (e : Executor σ)
  (t : Http.Transport σ)

/-- The controller that has sessions counted by the service. -/
def controller : Controller σ := ⟨d, e, a.registry t⟩

/-- The same controller, with its exchanges written down. -/
def watching : Controller (σ × List Http.Exchange) := a.controller d e.beside t.watched

theorem mirrors_watching : (a.watching d e t).Mirrors (a.controller d e t) Prod.fst where
  definition := rfl
  execute _ _ _ := rfl
  count p s := by
    rw [watching, controller, controller, count_eq, count_eq]
    split <;> rfl

/-- The exchange for a count, with what becomes of the reply. -/
def exchangeOf (r : Reading) : List (Http.Inquiry × Except RegistryError Nat) :=
  if a.asksForCounts then [(a.countInquiry r.principal, r.answer)] else []

/-- The exchanges that are written down are those for the counts. -/
def Exchanged (s : Situation (σ × List Http.Exchange)) : Prop :=
  s.state.2.map (fun x => (x.inquiry, a.countOf x.reply)) = s.readings.flatMap a.exchangeOf

variable {a d e t} {told : Option Outcome}

theorem Exchanged.of_eq {s s' : Situation (σ × List Http.Exchange)} (h : a.Exchanged s)
    (hstate : s'.state.2 = s.state.2) (hread : s'.readings = s.readings) : a.Exchanged s' := by
  rw [Exchanged, hstate, hread]
  exact h

/-- Steps are executed without the service. -/
theorem exchanged_of_executes {s s' : Situation (σ × List Http.Exchange)} {p : Pending}
    {r : Except StepError StepStatus} (h : (a.watching d e t).Executes s p r s')
    (hs : a.Exchanged s) : a.Exchanged s' := by
  refine hs.of_eq ?_ (h.view_eq fun _ => rfl)
  cases h with
  | mk => rfl

/-- Each count is an exchange. -/
theorem exchanged_of_ensues {s : Situation (σ × List Http.Exchange)} {p : Pending}
    {outcome : Outcome} {m : Moment (σ × List Http.Exchange)}
    (h : (a.watching d e t).Ensues p outcome s m) (hs : a.Exchanged s) :
    a.Exchanged m.situation := by
  obtain ⟨hread, hstate⟩ | ⟨r, hread, hcount, -⟩ := h.asksOnce
  · exact hs.of_eq (by rw [hstate]) hread
  · rw [Exchanged, hread, List.flatMap_append, List.flatMap_singleton, ← hs]
    rw [watching, controller, count_eq] at hcount
    rw [exchangeOf]
    split at hcount
    · next hasks =>
      obtain ⟨hanswer, hstate⟩ := Prod.mk.inj hcount
      rw [if_pos hasks, ← hstate, ← hanswer]
      exact List.map_append
    · next hasks =>
      obtain ⟨-, hstate⟩ := Prod.mk.inj hcount
      rw [if_neg hasks, ← hstate, List.append_nil]

theorem exchanged_of_turn {m m' : Moment (σ × List Http.Exchange)}
    (h : (a.watching d e t).Turn told m m') (hm : a.Exchanged m.situation) :
    a.Exchanged m'.situation := by
  cases h with
  | start | conclude => exact hm
  | follow hr he =>
    refine exchanged_of_ensues he ?_
    cases hr with
    | completed hx => exact exchanged_of_executes hx hm
    | resumed => exact hm
  | suspend hx =>
    exact (exchanged_of_executes hx hm).of_eq rfl (Situation.view_suspend_of_none rfl)
  | crash hx => exact (exchanged_of_executes hx hm).of_eq rfl (Situation.view_fail_of_none rfl)
  | exceed => exact hm.of_eq rfl (Situation.view_fail_of_none rfl)

/-! ### Courses -/

section Courses

variable {principal : Principal} {attributes : Attributes} {state : σ}
  {k : Course (σ × List Http.Exchange)} {stage : Stage}

theorem exchanged_of_follows
    (h : (a.watching d e t).Follows (Controller.outset principal attributes (state, [])) k stage) :
    a.Exchanged k.situation :=
  h.turns.keeps (P := fun m => a.Exchanged m.situation) (fun _ _ _ => exchanged_of_turn) rfl

/-- There is an exchange for each count, if anything can be asked for. -/
theorem length_exchanges
    (h : (a.watching d e t).Follows (Controller.outset principal attributes (state, [])) k stage)
    (hasks : a.asksForCounts = true) :
    k.situation.state.2.length = k.situation.readings.length := by
  have hlen := congrArg List.length (exchanged_of_follows h)
  have hone : a.exchangeOf = fun r => [(a.countInquiry r.principal, r.answer)] :=
    funext fun r => if_pos hasks
  rwa [List.length_map, hone, ← List.map_eq_flatMap, List.length_map] at hlen

/-- An exchange is the only one, and it is about the count of the principal. -/
theorem reading_of_exchange
    (h : (a.watching d e t).Follows (Controller.outset principal attributes (state, [])) k stage)
    {x : Http.Exchange} (hx : x ∈ k.situation.state.2) :
    k.situation.state.2 = [x] ∧ x.inquiry = a.countInquiry principal ∧
      ∃ limit, k.situation.readings = [⟨principal, limit, a.countOf x.reply⟩] := by
  have hg := Controller.gauge_of_follows h
  have hexchanged : k.situation.state.2.map (fun x => (x.inquiry, a.countOf x.reply)) =
      k.situation.readings.flatMap a.exchangeOf := exchanged_of_follows h
  have hone := hg.length_readings_le
  have hprincipal (r : Reading) (hr : r ∈ k.situation.readings) : r.principal = principal :=
    hg.principal_of_reading hr
  cases hr : k.situation.readings with
  | nil =>
    rw [hr, List.flatMap_nil, List.map_eq_nil_iff] at hexchanged
    rw [hexchanged] at hx
    cases hx
  | cons r rest =>
    obtain rfl : rest = [] := List.length_eq_zero_iff.1 (by simpa [hr] using hone)
    have hp := hprincipal r (hr ▸ List.mem_singleton_self r)
    rw [hr, List.flatMap_singleton, exchangeOf] at hexchanged
    split at hexchanged
    · obtain ⟨y, hy, hyr⟩ := List.map_eq_singleton_iff.1 hexchanged
      obtain rfl : x = y := List.mem_singleton.1 (hy ▸ hx)
      obtain ⟨hinquiry, hanswer⟩ := Prod.mk.inj hyr
      refine ⟨hy, hp ▸ hinquiry, r.limit, ?_⟩
      rw [← hp, hanswer]
    · rw [List.map_eq_nil_iff.1 hexchanged] at hx
      cases hx

end Courses

/-- A registry gives a number exactly if the service replies with a count, and
    has no answer otherwise. So an attempt that has its sessions counted by the
    service makes no exchange with it before a step arrives at the gate, and then one,
    if there is a limit for the first arrival. It goes by the number if the reply is a
    count. Any other reply makes the attempt fail, for good: there is no verdict and no
    diagnostic, no further step is executed, and no later call changes anything or
    asks the service again. -/
theorem counting_fails_closed (a : Analytics) (d : FlowDefinition) (e : Executor σ)
    (t : Http.Transport σ) (calls : List Call) (principal : Principal) (attributes : Attributes)
    (state : σ) :
    let c := a.watching d e t
    let course calls := c.course calls (.new principal attributes) (state, [])
    let first := Controller.outset principal attributes (state, [])
    let exchanges := (course calls).situation.state.2
    let arrivals := (course calls).situation.arrivals d
    (∀ s n, ((a.registry t).count principal s).1 = .ok n ↔
      a.asksForCounts = true ∧ (t (a.countInquiry principal) s).1.Counts n) ∧
    (∀ s, (∀ n, ((a.registry t).count principal s).1 ≠ .ok n) →
      ∃ reason, ((a.registry t).count principal s).1 = .error (.unavailable reason)) ∧
    (course calls).map Prod.fst =
      (a.controller d e t).course calls (.new principal attributes) state ∧
    (arrivals = [] → exchanges = []) ∧
    (a.asksForCounts = true → exchanges.length = (course calls).situation.readings.length ∧
      (arrivals ≠ [] → ∃ p outcome s gate, c.Arrives first p outcome s gate ∧
        s.arrivals d = [] ∧ (exchanges.length = 1 ↔ ∃ limit, SessionLimit.parse
          ((s.attempt.attributes.insertAll gate.attributes.entries).get? limitAttribute) =
            .ok limit)) ∧
      ∀ limit, d.Limits limit → arrivals ≠ [] → exchanges.length = 1) ∧
    ∀ x ∈ exchanges, exchanges = [x] ∧ x.inquiry = a.countInquiry principal ∧
      (∀ n, x.reply.Counts n →
        ∃ limit, (course calls).situation.readings = [⟨principal, limit, .ok n⟩]) ∧
      ((∀ n, ¬x.reply.Counts n) →
        ∃ step reason, (course calls).FailsClosed step (.unavailable reason) ∧
          ∀ later, (course (calls ++ later)).situation = (course calls).situation) := by
  intro c course first exchanges arrivals
  obtain ⟨stage, h, -⟩ := c.course_turns calls principal attributes (state, [])
  have hg := Controller.gauge_of_follows h
  refine ⟨fun s n => a.count_eq_ok_iff t principal s, fun s hs => ?_,
    ((a.mirrors_watching d e t).course calls _ (state, [])).symm, fun hnone => ?_,
    fun hasks => ?_, fun x hx => ?_⟩
  · cases hcount : ((a.registry t).count principal s).1 with
    | ok n => exact absurd hcount (hs n)
    | error cause =>
      obtain ⟨reason⟩ := cause
      exact ⟨reason, rfl⟩
  · have hread : (course calls).situation.readings = [] :=
      (hg.before (hg.arrivals_eq_nil_iff.1 hnone)).2
    have hexchanged : exchanges.map (fun x => (x.inquiry, a.countOf x.reply)) =
        (course calls).situation.readings.flatMap a.exchangeOf := exchanged_of_follows h
    rw [hread, List.flatMap_nil] at hexchanged
    exact List.map_eq_nil_iff.1 hexchanged
  · have hlen : exchanges.length = (course calls).situation.readings.length :=
      length_exchanges h hasks
    refine ⟨hlen, fun ha => ?_, fun limit hd ha => ?_⟩
    · rw [hlen]
      exact hg.exists_arrival ha
    · obtain ⟨answer, hread, -⟩ := h.exists_reading hd (hg.evaluated_of_arrivals ha)
      exact hlen.trans (congrArg List.length hread)
  · obtain ⟨hone, hinquiry, limit, hread⟩ := reading_of_exchange h hx
    refine ⟨hone, hinquiry, fun n hn => ⟨limit, ?_⟩, fun hn => ?_⟩
    · rw [← a.countOf_eq_ok_iff.2 hn]
      exact hread
    · cases hcount : a.countOf x.reply with
      | ok n => exact absurd (a.countOf_eq_ok_iff.1 hcount) (hn n)
      | error cause =>
        obtain ⟨reason⟩ := cause
        obtain ⟨step, rfl, hfail⟩ := h.failsClosed hread hcount
        exact ⟨step, reason, hfail, Controller.situation_of_over h.agrees⟩

end Analytics

end LoginGate
