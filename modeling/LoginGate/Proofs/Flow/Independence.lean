import LoginGate.Proofs.Flow.Determinacy
import LoginGate.Proofs.Flow.Handover
import LoginGate.Proofs.Flow.Recording
import LoginGate.Proofs.Flow.Refusal
import LoginGate.Proofs.Flow.SessionLimited
import LoginGate.Proofs.Flow.Verdict
import Mathlib.Data.List.Induction

/-!
# Attributes have no influence

The limit reaches the evaluation among the attributes of the attempt, which every
step may write. Where the gate writes a setting of its own, it does so before the
limit is evaluated, and so nothing that was written before matters.

Two attempts are compared that have their answers from the same lists, executor
and registry each giving the next one whenever they are asked. What their
attributes are, at first and after any step, is left open. They keep step: at each
moment they are the same apart from the attributes and the state around them
(`Situation.bare`), which is kept by what follows an outcome (`Ensues.bare_eq`),
by each turn (`Turn.bare_eq`), and so by calls (`course_bare`).
-/

namespace LoginGate

variable {σ τ : Type} {replies : List (Except StepError StepStatus)}
  {counts : List (Except RegistryError Nat)}

/-! ### Answers from lists -/

/-- The answers in the transcript are the first ones of the lists. -/
structure Transcript.Draws (t : Transcript) (replies : List (Except StepError StepStatus))
    (counts : List (Except RegistryError Nat)) : Prop where
  /-- The answers of the executor come from its list. -/
  replies : t.replies.map Prod.snd <+: replies
  /-- The answers of the registry come from its list. -/
  counts : t.counts.map Prod.snd <+: counts

/-- There is only one next item of a list. -/
theorem eq_of_concat_prefix {α : Type} {l all : List α} {a b : α} (ha : l ++ [a] <+: all)
    (hb : l ++ [b] <+: all) : a = b := by
  have h : l ++ [a] <+: l ++ [b] := List.prefix_of_prefix_length_le ha hb (by simp)
  simpa using h.eq_of_length (by simp)

namespace Transcript.Draws

variable {t : Transcript} {step : StepId} {r r' : Except StepError StepStatus}
  {readings : List Reading}

theorem of_reply (h : (t.reply step r).Draws replies counts) : t.Draws replies counts := by
  refine ⟨.trans ?_ h.replies, h.counts⟩
  rw [Transcript.reply, List.map_append]
  exact List.prefix_append _ _

theorem of_count (h : (t.count readings).Draws replies counts) : t.Draws replies counts := by
  refine ⟨h.replies, .trans ?_ h.counts⟩
  rw [Transcript.count, List.map_append]
  exact List.prefix_append _ _

theorem reply_unique (h : (t.reply step r).Draws replies counts)
    (h' : (t.reply step r').Draws replies counts) : r = r' := by
  have hr := h.replies
  have hr' := h'.replies
  rw [Transcript.reply, List.map_append] at hr hr'
  exact eq_of_concat_prefix hr hr'

theorem count_unique {reading reading' : Reading}
    (h : (t.count [reading]).Draws replies counts)
    (h' : (t.count [reading']).Draws replies counts) : reading.answer = reading'.answer := by
  have hr := h.counts
  have hr' := h'.counts
  rw [Transcript.count, List.map_append] at hr hr'
  exact eq_of_concat_prefix hr hr'

end Transcript.Draws

/-! ### What is left without attributes -/

/-- The situation without the attributes, and with the transcript as its only state. -/
def Situation.bare (s : Situation (σ × Transcript)) : Situation Transcript :=
  ⟨{ s.attempt with attributes := .empty }, s.state.2, s.events⟩

/-- The moment without the attributes, and with the transcript as its only state. -/
def Moment.bare (m : Moment (σ × Transcript)) : Moment Transcript := ⟨m.stage, m.situation.bare⟩

/-- Every gate of the flow writes a setting of the limit, whatever its text. -/
def FlowDefinition.WritesSetting (d : FlowDefinition) : Prop :=
  ∀ step outcome gate, d.continuation? step outcome = some (.sessionLimitGate gate) →
    ∃ setting, gate.attributes.get? limitAttribute = some setting

theorem FlowDefinition.Limits.writesSetting {d : FlowDefinition} {limit : SessionLimit}
    (h : d.Limits limit) : d.WritesSetting :=
  fun step outcome gate hk => ⟨limit.text, h step outcome gate hk⟩

namespace Controller

variable {c : Controller σ} {c' : Controller τ}

/-- At a gate that writes a setting, both evaluations say the same and ask for the
    same count. -/
theorem evaluationAt_bare {gate : SessionLimitGate} {setting : String}
    (hg : gate.attributes.get? limitAttribute = some setting) {s : Situation (σ × Transcript)}
    {t : Situation (τ × Transcript)} (h : s.bare = t.bare)
    (hs : (c.recording.evaluationAt gate s).state.2.Draws replies counts)
    (ht : (c'.recording.evaluationAt gate t).state.2.Draws replies counts) :
    (c.recording.evaluationAt gate s).map Prod.snd =
      (c'.recording.evaluationAt gate t).map Prod.snd := by
  have hprincipal : s.attempt.principal = t.attempt.principal :=
    congrArg (fun u => u.attempt.principal) h
  have htranscript : s.state.2 = t.state.2 := congrArg Situation.state h
  rw [evaluationAt_transcript] at hs ht
  rw [Evaluation.map, Evaluation.map, evaluationAt_transcript, evaluationAt_transcript]
  rw [← htranscript] at ht ⊢
  rw [evaluationAt_of_setting hg, Registry.evaluateSetting] at hs ht
  rw [evaluationAt_of_setting hg, evaluationAt_of_setting hg, Registry.evaluateSetting,
    Registry.evaluateSetting, ← hprincipal]
  cases hlimit : SessionLimit.parse (some setting) with
  | error e => rfl
  | ok limit =>
    simp only [hlimit, Registry.evaluateLimit_eq, Option.toList_some] at hs ht ⊢
    have hanswer := hs.count_unique ht
    dsimp only at hanswer
    rw [hanswer, hprincipal]

/-! ### Transcripts grow -/

theorem draws_of_ensues {p : Pending} {outcome : Outcome} {s : Situation (σ × Transcript)}
    {m : Moment (σ × Transcript)} (h : c.recording.Ensues p outcome s m)
    (hm : m.situation.state.2.Draws replies counts) : s.state.2.Draws replies counts := by
  obtain ⟨readings, -, ht⟩ := h.transcript_eq
  rw [ht] at hm
  exact hm.of_count

theorem draws_of_executes {s s' : Situation (σ × Transcript)} {p : Pending}
    {r : Except StepError StepStatus} (h : c.recording.Executes s p r s')
    (hs' : s'.state.2.Draws replies counts) : s.state.2.Draws replies counts := by
  rw [h.transcript_eq] at hs'
  exact hs'.of_reply

theorem draws_of_advance {s : Situation (σ × Transcript)} {p : Pending} {rest : List Pending}
    (hp : s.attempt.execution.pending = p :: rest)
    (hlen : s.attempt.execution.executed.length < maxSteps)
    (h : (c.recording.advance s).situation.state.2.Draws replies counts) :
    (c.recording.executed s p rest).state.2.Draws replies counts := by
  rw [advance_cons hp hlen] at h
  split at h
  · exact h
  · exact h
  · next outcome _ => exact draws_of_ensues (ensues_onOutcome p outcome _) h

theorem draws_of_turn {told : Option Outcome} {m m' : Moment (σ × Transcript)}
    (h : c.recording.Turn told m m') (hm' : m'.situation.state.2.Draws replies counts) :
    m.situation.state.2.Draws replies counts := by
  cases h with
  | start | exceed | conclude => exact hm'
  | follow hr he =>
    have hs := draws_of_ensues he hm'
    cases hr with
    | completed hx => exact draws_of_executes hx hs
    | resumed => exact hs
  | suspend hx | crash hx => exact draws_of_executes hx hm'

/-- What is drawn at the end of turns was drawn from the same lists before. -/
theorem draws_of_turns {told : List Outcome} {m m' : Moment (σ × Transcript)}
    (h : c.recording.Turns told m m') (hm' : m'.situation.state.2.Draws replies counts) :
    m.situation.state.2.Draws replies counts := by
  induction h with
  | refl => exact hm'
  | head ht _ ih => exact draws_of_turn ht (ih hm')

/-! ### Both attempts keep step -/

/-- After an evaluation, situations are the same without attributes if they were
    so before. -/
theorem bare_read {gate : SessionLimitGate} {s : Situation (σ × Transcript)}
    {t : Situation (τ × Transcript)} {e : Evaluation (σ × Transcript)}
    {e' : Evaluation (τ × Transcript)} (h : s.bare = t.bare)
    (he : e.map Prod.snd = e'.map Prod.snd) :
    ((s.enterGate gate).read e).bare = ((t.enterGate gate).read e').bare := by
  have hs : ((s.enterGate gate).read e).bare =
      (s.bare.withExecution fun x => { x with evaluated := true }).read (e.map Prod.snd) := rfl
  rw [hs, h, he]
  rfl

section Lockstep

variable (hd : c'.definition = c.definition) (hg : c.definition.WritesSetting)
include hd hg

/-- The same ensues in both attempts. -/
theorem Ensues.bare_eq {p : Pending} {outcome : Outcome} {s : Situation (σ × Transcript)}
    {t : Situation (τ × Transcript)} {m : Moment (σ × Transcript)} {n : Moment (τ × Transcript)}
    (h : c.recording.Ensues p outcome s m) (h' : c'.recording.Ensues p outcome t n)
    (hst : s.bare = t.bare) (hm : m.situation.state.2.Draws replies counts)
    (hn : n.situation.state.2.Draws replies counts) : m.bare = n.bare := by
  have hpending : t.attempt.execution.pending = s.attempt.execution.pending :=
    congrArg (fun u => u.attempt.execution.pending) hst.symm
  have hevaluated : t.attempt.execution.evaluated = s.attempt.execution.evaluated :=
    congrArg (fun u => u.attempt.execution.evaluated) hst.symm
  have hcontinuation : c'.recording.definition.continuation? p.step outcome =
      c.recording.definition.continuation? p.step outcome :=
    congrArg (fun d => FlowDefinition.continuation? d p.step outcome) hd
  have hnext : c'.recording.definition.nextDeclared? p.step =
      c.recording.definition.nextDeclared? p.step :=
    congrArg (fun d => FlowDefinition.nextDeclared? d p.step) hd
  have hreport : (s.report p.step outcome).bare = (t.report p.step outcome).bare :=
    congrArg (fun u => u.report p.step outcome) hst
  have hevaluation {gate : SessionLimitGate}
      (hk : c.recording.definition.continuation? p.step outcome = some (.sessionLimitGate gate))
      (he : s.attempt.execution.evaluated = false) :
      (c.recording.evaluationAt gate (s.report p.step outcome)).map Prod.snd =
        (c'.recording.evaluationAt gate (t.report p.step outcome)).map Prod.snd := by
    obtain ⟨setting, hsetting⟩ := hg _ _ _ hk
    rw [h.state_of_first hk he] at hm
    rw [h'.state_of_first (hcontinuation.trans hk) (hevaluated.trans he)] at hn
    exact evaluationAt_bare hsetting hreport hm hn
  cases h with
  | @next next hk ho hs hnone =>
    rw [h'.unique (.next (hcontinuation.trans hk) ho (hpending.trans hs) (hnext.trans hnone))]
    exact congrArg (fun u => Moment.mk .going (u.withPending [⟨next, .declared⟩])) hreport
  | last hk ho hs hnone =>
    rw [h'.unique (.last (hcontinuation.trans hk) ho (hpending.trans hs) (hnext.trans hnone))]
    exact congrArg (Moment.mk .going) hreport
  | rest hk hne =>
    rw [h'.unique (.rest (hcontinuation.trans hk) (hpending ▸ hne))]
    exact congrArg (Moment.mk .going) hreport
  | @execute steps hk =>
    rw [h'.unique (.execute (hcontinuation.trans hk))]
    exact congrArg (fun u => Moment.mk .going (u.schedule steps)) hreport
  | again hk he =>
    rw [h'.unique (.again (hcontinuation.trans hk) (hevaluated.trans he))]
    exact congrArg (fun u => Moment.mk _ (u.fail (.alreadyEvaluated p.step))) hreport
  | @pass gate verdict hk he hr =>
    have hev := hevaluation hk he
    have hr' := (congrArg Evaluation.result hev).symm.trans hr
    rw [h'.unique (.pass (hcontinuation.trans hk) (hevaluated.trans he) hr')]
    exact congrArg (fun u => Moment.mk .going
      ((u.note (.decided verdict.isWithin)).schedule (gate.steps verdict.isWithin)))
      (bare_read hreport hev)
  | @refuse gate cause hk he hr =>
    have hev := hevaluation hk he
    have hr' := (congrArg Evaluation.result hev).symm.trans hr
    rw [h'.unique (.refuse (hcontinuation.trans hk) (hevaluated.trans he) hr')]
    exact congrArg (fun u => Moment.mk _ (u.fail (.policy p.step cause))) (bare_read hreport hev)
  | @route reason hk =>
    rw [h'.unique (.route (hcontinuation.trans hk))]
    exact congrArg (fun u => Moment.mk _
      (u.fail (.routed p.step (reason.getD ("outcome " ++ outcome.name))))) hreport

/-- The same step is executed in both attempts, with the same answer. -/
theorem advance_bare {s : Situation (σ × Transcript)} {t : Situation (τ × Transcript)}
    (hst : s.bare = t.bare)
    (hs : (c.recording.advance s).situation.state.2.Draws replies counts)
    (ht : (c'.recording.advance t).situation.state.2.Draws replies counts) :
    (c.recording.advance s).bare = (c'.recording.advance t).bare := by
  have hexecution : t.attempt.execution = s.attempt.execution :=
    congrArg (fun u => u.attempt.execution) hst.symm
  have htranscript : s.state.2 = t.state.2 := congrArg Situation.state hst
  cases hp : s.attempt.execution.pending with
  | nil =>
    rw [advance_nil hp, advance_nil (hexecution ▸ hp), hexecution]
    exact congrArg (fun u => Moment.mk _
      (u.finish (s.attempt.execution.lastOutcome.getD .failure))) hst
  | cons p rest =>
    have hp' : t.attempt.execution.pending = p :: rest := hexecution ▸ hp
    rcases Nat.lt_or_ge s.attempt.execution.executed.length maxSteps with hlen | hlen
    · have hlen' : t.attempt.execution.executed.length < maxSteps := hexecution ▸ hlen
      -- Either answer is the next one of the list.
      have hanswer : (c.recording.reply s p rest).result =
          (c'.recording.reply t p rest).result := by
        have hx : (s.state.2.reply p.step (c.recording.reply s p rest).result).Draws
            replies counts := draws_of_advance hp hlen hs
        have hx' : (t.state.2.reply p.step (c'.recording.reply t p rest).result).Draws
            replies counts := draws_of_advance hp' hlen' ht
        rw [← htranscript] at hx'
        exact hx.reply_unique hx'
      have hexecuted : (c.recording.executed s p rest).bare =
          (c'.recording.executed t p rest).bare := by
        have hx : (c.recording.executed s p rest).bare = (s.bare.take p.step rest).accept
            ⟨(c.recording.reply s p rest).result, .empty,
              s.bare.state.reply p.step (c.recording.reply s p rest).result⟩ := rfl
        rw [hx, hst, hanswer]
        rfl
      rw [advance_cons hp hlen] at hs ⊢
      rw [advance_cons hp' hlen', ← hanswer] at ht ⊢
      cases hr : (c.recording.reply s p rest).result with
      | error cause => exact congrArg (fun u => Moment.mk _ (u.fail (.step p.step cause))) hexecuted
      | ok status =>
        cases status with
        | suspended => exact congrArg (fun u => Moment.mk _ (u.suspend p)) hexecuted
        | completed outcome =>
          rw [hr] at hs ht
          exact (ensues_onOutcome p outcome _).bare_eq hd hg (ensues_onOutcome p outcome _)
            hexecuted hs ht
    · rw [advance_full hp hlen, advance_full hp' (hexecution ▸ hlen)]
      exact congrArg (fun u => Moment.mk _ (u.fail (.stepLimitExceeded p.step))) hst

/-- Both attempts take the same turn. -/
theorem Turn.bare_eq {told : Option Outcome} {m m' : Moment (σ × Transcript)}
    {n n' : Moment (τ × Transcript)} (h : c.recording.Turn told m m')
    (h' : c'.recording.Turn told n n') (hmn : m.bare = n.bare)
    (hm : m'.situation.state.2.Draws replies counts)
    (hn : n'.situation.state.2.Draws replies counts) : m'.bare = n'.bare := by
  have hm' := turn_cases h
  have hn' := turn_cases h'
  obtain ⟨stage, s⟩ := m
  obtain ⟨stage', t⟩ := n
  obtain rfl : stage = stage' := congrArg Moment.stage hmn
  have hst : s.bare = t.bare := congrArg Moment.situation hmn
  rcases stage with _ | _ | p | result
  · obtain ⟨-, rfl⟩ := hm'
    obtain ⟨-, rfl⟩ := hn'
    have hentry : c'.recording.definition.entry = c.recording.definition.entry :=
      congrArg FlowDefinition.entry hd
    rw [hentry]
    exact congrArg (fun u => Moment.mk .going (u.withPending
      (u.attempt.execution.pending ++ [⟨c.recording.definition.entry, .declared⟩]))) hst
  · obtain ⟨-, rfl⟩ := hm'
    obtain ⟨-, rfl⟩ := hn'
    exact advance_bare hd hg hst hm hn
  · obtain ⟨outcome, rfl, rfl⟩ := hm'
    obtain ⟨outcome', ho, rfl⟩ := hn'
    obtain rfl := Option.some.inj ho
    exact (ensues_onOutcome p outcome _).bare_eq hd hg (ensues_onOutcome p outcome _)
      (congrArg Situation.wake hst) hm hn
  · exact hm'.elim

/-- A call has the same result for both attempts. -/
theorem perform_bare {stage : Stage} {s : Situation (σ × Transcript)}
    {t : Situation (τ × Transcript)} (call : Call) (ha : stage.Agrees s.attempt.execution)
    (hst : s.bare = t.bare)
    (hs : (c.recording.perform call s).2.state.2.Draws replies counts)
    (ht : (c'.recording.perform call t).2.state.2.Draws replies counts) :
    (c.recording.perform call s).1 = (c'.recording.perform call t).1 ∧
      (c.recording.perform call s).2.bare = (c'.recording.perform call t).2.bare := by
  have hexecution : t.attempt.execution = s.attempt.execution :=
    congrArg (fun u => u.attempt.execution) hst.symm
  by_cases hadmits : s.attempt.execution.Admits call
  · have hadmits' : t.attempt.execution.Admits call := hexecution ▸ hadmits
    rcases c.recording.perform_turns call ha with ⟨hr, -⟩ | ⟨-, stage₁, h₁⟩
    · exact absurd (isRefused_iff.1 hr) (not_not_intro hadmits)
    rcases c'.recording.perform_turns call (hexecution ▸ ha) with ⟨hr, -⟩ | ⟨-, stage₂, h₂⟩
    · exact absurd (isRefused_iff.1 hr) (not_not_intro hadmits')
    have hbare : Moment.bare ⟨stage₁, (c.recording.perform call s).2⟩ =
        Moment.bare ⟨stage₂, (c'.recording.perform call t).2⟩ := by
      refine h₁.turns.lockstep (P := fun m n => m.bare = n.bare)
        (Q := fun m n => m.situation.state.2.Draws replies counts ∧
          n.situation.state.2.Draws replies counts)
        (congrArg Moment.stage)
        (fun h h' hQ => ⟨draws_of_turns h hQ.1, draws_of_turns h' hQ.2⟩)
        (fun h h' hP hQ => h.bare_eq hd hg h' hP hQ.1 hQ.2)
        h₂.turns (h₁.agrees.isRest h₁.ne_ready) (h₂.agrees.isRest h₂.ne_ready) ?_ ⟨hs, ht⟩
      exact congrArg (Moment.mk stage) hst
    obtain rfl : stage₁ = stage₂ := congrArg Moment.stage hbare
    exact ⟨Option.some.inj (h₁.result.symm.trans h₂.result), congrArg Moment.situation hbare⟩
  · rw [perform_of_not_admits _ hadmits, perform_of_not_admits _ (hexecution ▸ hadmits)]
    exact ⟨rfl, hst⟩

end Lockstep

theorem draws_of_perform {stage : Stage} {s : Situation (σ × Transcript)} {call : Call}
    (ha : stage.Agrees s.attempt.execution)
    (h : (c.recording.perform call s).2.state.2.Draws replies counts) :
    s.state.2.Draws replies counts := by
  rcases c.recording.perform_turns call ha with ⟨-, hs, -⟩ | ⟨-, stage', hr⟩
  · rwa [hs] at h
  · exact draws_of_turns hr.turns h

/-- Courses of both attempts are the same, apart from the attributes and the
    state around them. -/
theorem course_bare (hd : c'.definition = c.definition) (hg : c.definition.WritesSetting)
    {calls : List Call} {principal : Principal} {attributes attributes' : Attributes}
    {state : σ} {state' : τ}
    (h : (c.transcript calls (.new principal attributes) state).Draws replies counts)
    (h' : (c'.transcript calls (.new principal attributes') state').Draws replies counts) :
    (c.recording.course calls (.new principal attributes) (state, {})).calls =
        (c'.recording.course calls (.new principal attributes') (state', {})).calls ∧
      (c.recording.course calls (.new principal attributes) (state, {})).situation.bare =
        (c'.recording.course calls (.new principal attributes') (state', {})).situation.bare := by
  induction calls using List.reverseRecOn with
  | nil => exact ⟨rfl, rfl⟩
  | append_singleton calls call ih =>
    obtain ⟨stage, hf, -⟩ := c.recording.course_turns calls principal attributes (state, {})
    obtain ⟨stage', hf', -⟩ := c'.recording.course_turns calls principal attributes' (state', {})
    rw [transcript, course_append] at h h'
    rw [course_append, course_append]
    obtain ⟨hcalls, hbare⟩ := ih (draws_of_perform hf.agrees h) (draws_of_perform hf'.agrees h')
    obtain ⟨hresult, hsituation⟩ := perform_bare hd hg call hf.agrees hbare h h'
    refine ⟨?_, hsituation⟩
    show _ ++ [(call, _)] = _ ++ [(call, _)]
    rw [hcalls, hresult]

/-- Of two attempts with the same answers of executor and registry, the attributes
    may be anything, at first and after each step: if the gates write settings of
    their own, all calls have the same results, the same steps are executed, the
    same happens, and executor and registry are asked the same. In either attempt
    the controller itself writes attributes at the gate only. -/
theorem independent_of_attributes (hd : c'.definition = c.definition)
    (hg : c.definition.WritesSetting) (calls : List Call) (principal : Principal)
    (attributes attributes' : Attributes) (state : σ) (state' : τ)
    (h : (c.transcript calls (.new principal attributes) state).Draws replies counts)
    (h' : (c'.transcript calls (.new principal attributes') state').Draws replies counts) :
    let k := c.course calls (.new principal attributes) state
    let k' := c'.course calls (.new principal attributes') state'
    k.calls = k'.calls ∧ k.execution = k'.execution ∧
      k.situation.events = k'.situation.events ∧
      c.transcript calls (.new principal attributes) state =
        c'.transcript calls (.new principal attributes') state' ∧
      c.WritesAtGateOnly calls principal attributes state ∧
      c'.WritesAtGateOnly calls principal attributes' state' := by
  intro k k'
  have hk : (c.recording.course calls (.new principal attributes) (state, {})).forget = k :=
    c.forget_recording calls _ state {}
  have hk' : (c'.recording.course calls (.new principal attributes') (state', {})).forget = k' :=
    c'.forget_recording calls _ state' {}
  obtain ⟨hcalls, hbare⟩ := course_bare hd hg h h'
  refine ⟨?_, ?_, ?_, congrArg Situation.state hbare, c.writesAtGateOnly .., c'.writesAtGateOnly ..⟩
  · rw [← hk, ← hk']
    exact hcalls
  · rw [← hk, ← hk']
    exact congrArg (fun s => s.attempt.execution) hbare
  · rw [← hk, ← hk']
    exact congrArg Situation.events hbare

end Controller

/-- The built-in flow where each step leaves `setting` for the limit, the
    remediation is suspended, and everyone has three sessions. -/
def meddlingController (setting : String) : Controller Unit where
  definition := .sessionLimited threeSessions ⟨"1"⟩ ⟨"2"⟩ ⟨"3"⟩
  executor := ⟨fun step attempt s =>
    ⟨.ok (if step = ⟨"3"⟩ then .suspended else .completed .success),
      attempt.attributes.insert limitAttribute setting, s⟩⟩
  registry :=
    { count := fun _ s => (.ok 3, s)
      list := fun _ s => (.ok [], s)
      ping := fun s => (.reached, s) }

/-- A step that writes a generous limit gets as little by it as one that writes
    none at all. -/
theorem same_course_of_meddling :
    let k := (meddlingController "100").course [.start, .resume .success] (.new alice) ()
    let k' := (meddlingController "").course [.start, .resume .success]
      (.new alice threeSessions.attributes) ()
    k.situation.attempt.attributes ≠ k'.situation.attempt.attributes ∧ k.calls = k'.calls ∧
      k.execution.executed = [⟨"1"⟩, ⟨"3"⟩, ⟨"2"⟩] := by
  have hflow : (meddlingController "").definition = (meddlingController "100").definition := rfl
  have hlimits := (FlowDefinition.sessionLimited_gatesEntry threeSessions ⟨"1"⟩ ⟨"2"⟩ ⟨"3"⟩).limits
    threeSessions.get?_attributes
  have h : ((meddlingController "100").transcript [.start, .resume .success]
      (.new alice) ()).Draws
        [.ok (.completed .success), .ok .suspended, .ok (.completed .success)] [.ok 3] :=
    ⟨List.prefix_rfl, List.prefix_rfl⟩
  have h' : ((meddlingController "").transcript [.start, .resume .success]
      (.new alice threeSessions.attributes) ()).Draws
        [.ok (.completed .success), .ok .suspended, .ok (.completed .success)] [.ok 3] :=
    ⟨List.prefix_rfl, List.prefix_rfl⟩
  have hsame := Controller.independent_of_attributes hflow hlimits.writesSetting
    [.start, .resume .success] alice .empty threeSessions.attributes () () h h'
  exact ⟨by decide, hsame.1, rfl⟩

end LoginGate
