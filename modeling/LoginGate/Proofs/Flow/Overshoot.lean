import LoginGate.Proofs.Flow.Crowd
import LoginGate.Proofs.Flow.Determinacy
import LoginGate.Proofs.Flow.SessionLimited
import LoginGate.Proofs.Registry.Stamps
import Mathlib.Algebra.BigOperators.Group.Finset.Piecewise
import Mathlib.Algebra.Order.BigOperators.Group.Finset

/-!
# How far the limit is overshot

Logins of one principal that go through the built-in flow at the same time share
the sessions that they count. An attempt that found room may open its session
when others have taken the room, and so the principal can come to hold more
sessions than the limit. But no more than one for each other attempt that is
underway: an attempt that was let pass at the gate, or has made room, has
*promised* one session, and the sessions that are held, together with those that
are promised, stay within the bound.

* `kept_of_turn`: what a turn of one attempt does to this sum;
* `Bounded.serve`, `Bounded.act`: the sum over all attempts;
* `overshoot_le`: the bound, in whichever order the attempts are called for.
-/

namespace LoginGate

/-- The steps of logins through the built-in flow. The entry leaves the sessions
    alone, the step that proceeds opens one, and the remediation makes room for
    one. What they report is left open, and what else they do. -/
structure LoginSteps (ρ : Type) where
  /-- How many sessions a principal may hold. -/
  limit : SessionLimit
  /-- Where a login enters. -/
  entry : StepId
  /-- What goes on behind the gate. -/
  proceed : StepId
  /-- What comes first if there is no room. -/
  remediation : StepId
  /-- What the sessions get when they are opened. -/
  stamps : Stamps
  /-- What executes the steps. -/
  executor : Executor (StampedStore × ρ)
  /-- These are three steps. -/
  distinct : [entry, proceed, remediation].Nodup
  /-- The entry neither opens nor closes sessions. -/
  enters (a : Attempt) (s : StampedStore × ρ) : (executor.execute entry a s).state.1 = s.1
  /-- The step that proceeds opens a session. -/
  opens (a : Attempt) (s : StampedStore × ρ) : ∃ userAgent ipAddress serviceProvider,
    (executor.execute proceed a s).state.1 =
      s.1.openSession stamps a.principal userAgent ipAddress serviceProvider
  /-- The remediation closes the oldest sessions. -/
  trims (a : Attempt) (s : StampedStore × ρ) :
    (executor.execute remediation a s).state.1 = s.1.trim limit.value a.principal

namespace LoginSteps

variable {ρ : Type} (l : LoginSteps ρ)

/-- The controller of the built-in flow with these steps. -/
def controller : Controller (StampedStore × ρ) :=
  ⟨.sessionLimited l.limit l.entry l.proceed l.remediation, l.executor,
    SessionStore.registry (StampedStore.beside ρ)⟩

/-- What the gate of the flow writes, and where it leads to. -/
def gate : SessionLimitGate := ⟨l.limit.attributes, l.proceed, l.remediation⟩

/-- How many sessions an attempt is about to open without another look at those
    that are held. -/
def promised (e : Execution) : Nat := if e.pending = [⟨l.proceed, .scheduled⟩] then 1 else 0

/-- What waits at each stage of an attempt. -/
def Place : Stage → List Pending → Prop
  | .ready, queue | .over _, queue => queue = []
  | .going, queue => queue = [] ∨ queue = [⟨l.entry, .declared⟩] ∨
    queue = [⟨l.proceed, .scheduled⟩] ∨
    queue = [⟨l.remediation, .scheduled⟩, ⟨l.proceed, .scheduled⟩]
  | .waiting q, queue => (q = ⟨l.entry, .declared⟩ ∧ queue = []) ∨
    (q = ⟨l.proceed, .scheduled⟩ ∧ queue = []) ∨
    (q = ⟨l.remediation, .scheduled⟩ ∧ queue = [⟨l.proceed, .scheduled⟩])

/-- At a moment of an attempt of `p`, the sessions of `p` that are held and those
    that are promised stay within a bound. -/
structure Kept (first : SessionStore) (p : Principal) (b : Nat) (m : Moment (StampedStore × ρ)) :
    Prop where
  /-- The steps wait that the flow leads to. -/
  place : l.Place m.stage m.execution.pending
  /-- The attempt is one of `p`. -/
  principal : m.situation.attempt.principal = p
  /-- Only stamped sessions were added to the store. -/
  sound : m.situation.state.1.Sound l.stamps first
  /-- The sessions stay within the bound. -/
  bound : m.situation.state.1.store.count p + l.promised m.execution ≤ b

variable {l} {first : SessionStore} {p : Principal} {b : Nat}

theorem promised_eq_zero {e : Execution} (h : e.pending ≠ [⟨l.proceed, .scheduled⟩]) :
    l.promised e = 0 := if_neg h

theorem promised_nil {e : Execution} (h : e.pending = []) : l.promised e = 0 :=
  promised_eq_zero (by simp [h])

theorem promised_proceed {e : Execution} (h : e.pending = [⟨l.proceed, .scheduled⟩]) :
    l.promised e = 1 := if_pos h

/-- Between two calls, only an attempt that is underway has promised a session. -/
theorem Place.promised_le {stage : Stage} {e : Execution} (h : l.Place stage e.pending)
    (ha : stage.Agrees e) : l.promised e ≤ if e.IsUnderway then 1 else 0 := by
  rcases stage with _ | _ | q | result
  · rw [promised_nil h]
    exact Nat.zero_le _
  · exact ha.elim
  · rw [if_pos ⟨_, ha.1⟩, promised]
    split <;> decide
  · rw [promised_nil h]
    exact Nat.zero_le _

theorem gatesEntry (l : LoginSteps ρ) : l.controller.definition.GatesEntry l.gate :=
  FlowDefinition.sessionLimited_gatesEntry l.limit l.entry l.proceed l.remediation

/-! ### One attempt -/

theorem Kept.of_state {m : Moment (StampedStore × ρ)} {t : StampedStore}
    (hplace : l.Place m.stage m.execution.pending) (hp : m.situation.attempt.principal = p)
    (ht : m.situation.state.1 = t) (hsound : t.Sound l.stamps first)
    (hbound : t.store.count p + l.promised m.execution ≤ b) : l.Kept first p b m := by
  subst ht
  exact ⟨hplace, hp, hsound, hbound⟩

/-- A moment of an attempt that has promised nothing. -/
theorem Kept.of_promised_nil {m m' : Moment (StampedStore × ρ)} (h : l.Kept first p b m)
    (hplace : l.Place m'.stage m'.execution.pending)
    (hp : m'.situation.attempt.principal = m.situation.attempt.principal)
    (hstate : m'.situation.state = m.situation.state) (hnone : l.promised m'.execution = 0) :
    l.Kept first p b m' := by
  refine .of_state hplace (hp.trans h.principal) (congrArg Prod.fst hstate) h.sound ?_
  rw [hnone]
  exact Nat.le_trans (Nat.le_add_right _ _) h.bound

section Turn

variable (hb : l.limit.value ≤ b) (hlisted : b ≤ sessionListLimit) (hf : l.stamps.Fresh first)
include hb hlisted hf

/-- A step that is executed opens the session that was promised, or makes room for
    one, or does nothing about sessions. -/
theorem kept_of_executes {s s' : Situation (StampedStore × ρ)} {q : Pending}
    {r : Except StepError StepStatus} (h : l.controller.Executes s q r s')
    (hs : l.Kept first p b ⟨.going, s⟩) : l.Kept first p b ⟨.waiting q, s'⟩ := by
  obtain ⟨rest, hq, -, -, rfl⟩ := h.exists_rest
  have hbound : s.state.1.store.count p + l.promised s.attempt.execution ≤ b := hs.bound
  have hp : (s.take q.step rest).attempt.principal = p := hs.principal
  have hplace : l.Place .going s.attempt.execution.pending := hs.place
  rw [hq] at hplace
  rcases hplace with hnil | hentry | hproceed | hremediation
  · cases hnil
  · obtain ⟨rfl, rfl⟩ := List.cons.inj hentry
    refine .of_state (.inl ⟨rfl, rfl⟩) hp (l.enters _ s.state) hs.sound ?_
    rw [promised_nil rfl]
    exact Nat.le_trans (Nat.le_add_right _ _) hbound
  · obtain ⟨rfl, rfl⟩ := List.cons.inj hproceed
    obtain ⟨userAgent, ipAddress, serviceProvider, hstate⟩ :=
      l.opens (s.take l.proceed []).attempt s.state
    rw [hp] at hstate
    refine .of_state (.inr (.inl ⟨rfl, rfl⟩)) hp hstate (hs.sound.openSession hf ..) ?_
    rw [StampedStore.count_openSession, promised_nil rfl]
    rwa [promised_proceed hq] at hbound
  · obtain ⟨rfl, rfl⟩ := List.cons.inj hremediation
    have hstate := l.trims (s.take l.remediation [⟨l.proceed, .scheduled⟩]).attempt s.state
    rw [hp] at hstate
    refine .of_state (.inr (.inr ⟨rfl, rfl⟩)) hp hstate (hs.sound.trim ..) ?_
    -- All sessions are listed, so there is room for the one that is promised now.
    have hcount : s.state.1.store.count p ≤ sessionListLimit :=
      Nat.le_trans (Nat.le_trans (Nat.le_add_right _ _) hbound) hlisted
    rw [promised_proceed rfl]
    exact Nat.le_trans (hs.sound.distinct.count_trim_lt l.limit.pos hcount) hb

theorem kept_of_reports {told : Option Outcome} {m : Moment (StampedStore × ρ)} {q : Pending}
    {outcome : Outcome} {s : Situation (StampedStore × ρ)}
    (h : l.controller.Reports told m q outcome s) (hm : l.Kept first p b m) :
    l.Kept first p b ⟨.waiting q, s⟩ := by
  cases h with
  | completed hx => exact kept_of_executes hb hlisted hf hx hm
  | resumed => exact ⟨hm.place, hm.principal, hm.sound, hm.bound⟩

end Turn

/-- Only the success of the entry has a continuation, which is the gate. -/
theorem gate_of_continuation {step : StepId} {outcome : Outcome} {k : Continuation}
    (h : l.controller.definition.continuation? step outcome = some k) :
    l.entry = step ∧ k = .sessionLimitGate l.gate := by
  rw [l.gatesEntry] at h
  split at h
  · next hentry => exact ⟨hentry.1.symm, (Option.some.inj h).symm⟩
  · cases h

/-- Nothing waits behind the entry. -/
theorem Place.of_entry {q : Pending} {queue : List Pending} (h : l.Place (.waiting q) queue)
    (hq : l.entry = q.step) : queue = [] := by
  rcases h with ⟨-, hnil⟩ | ⟨-, hnil⟩ | ⟨rfl, -⟩
  · exact hnil
  · exact hnil
  · have hd := l.distinct
    rw [hq] at hd
    simp at hd

/-- The gate says whether there is room, and leaves the state alone. -/
theorem evaluationAt_gate (s : Situation (StampedStore × ρ)) :
    (l.controller.evaluationAt l.gate s).result =
        .ok (.ofCount (s.state.1.store.count s.attempt.principal) l.limit) ∧
      (l.controller.evaluationAt l.gate s).state = s.state := by
  rw [Controller.evaluationAt_of_limit l.limit.get?_attributes, Registry.evaluateLimit_eq]
  exact ⟨rfl, rfl⟩

/-- The remediation is called for if there is no room. -/
theorem steps_of_ofCount (l : LoginSteps ρ) (n : Nat) :
    l.gate.steps (Verdict.ofCount n l.limit).isWithin =
      if n < l.limit.value then [l.proceed] else [l.remediation, l.proceed] := by
  rw [Verdict.ofCount]
  split <;> rfl

/-- An attempt that finds room at the gate promises a session. -/
theorem kept_of_pass (hb : l.limit.value ≤ b) {q : Pending} {outcome : Outcome}
    {s : Situation (StampedStore × ρ)} {verdict : Verdict} (hs : l.Kept first p b ⟨.waiting q, s⟩)
    (hnone : s.attempt.execution.pending = [])
    (hr : (l.controller.evaluationAt l.gate (s.report q.step outcome)).result = .ok verdict) :
    l.Kept first p b ⟨.going,
      ((((s.report q.step outcome).enterGate l.gate).read
        (l.controller.evaluationAt l.gate (s.report q.step outcome))).note
          (.decided verdict.isWithin)).schedule (l.gate.steps verdict.isWithin)⟩ := by
  obtain ⟨hresult, hstate⟩ := l.evaluationAt_gate (s.report q.step outcome)
  have hcount : (s.report q.step outcome).state.1.store.count
      (s.report q.step outcome).attempt.principal = s.state.1.store.count p :=
    congrArg s.state.1.store.count hs.principal
  rw [hresult, hcount] at hr
  obtain rfl := Except.ok.inj hr
  by_cases hlt : s.state.1.store.count p < l.limit.value
  · have hqueue : (l.gate.steps
        (Verdict.ofCount (s.state.1.store.count p) l.limit).isWithin).map (⟨·, .scheduled⟩) ++
          s.attempt.execution.pending = [⟨l.proceed, .scheduled⟩] := by
      rw [hnone, steps_of_ofCount, if_pos hlt]
      rfl
    refine .of_state (.inr (.inr (.inl hqueue))) hs.principal (congrArg Prod.fst hstate)
      hs.sound ?_
    rw [promised_proceed hqueue]
    exact Nat.le_trans hlt hb
  · have hqueue : (l.gate.steps
        (Verdict.ofCount (s.state.1.store.count p) l.limit).isWithin).map (⟨·, .scheduled⟩) ++
          s.attempt.execution.pending =
            [⟨l.remediation, .scheduled⟩, ⟨l.proceed, .scheduled⟩] := by
      rw [hnone, steps_of_ofCount, if_neg hlt]
      rfl
    exact hs.of_promised_nil (.inr (.inr (.inr hqueue))) rfl hstate
      (promised_eq_zero fun h => by simpa using hqueue.symm.trans h)

theorem kept_of_ensues (hb : l.limit.value ≤ b) {q : Pending} {outcome : Outcome}
    {s : Situation (StampedStore × ρ)} {m : Moment (StampedStore × ρ)}
    (h : l.controller.Ensues q outcome s m) (hs : l.Kept first p b ⟨.waiting q, s⟩) :
    l.Kept first p b m := by
  have hplace : l.Place (.waiting q) s.attempt.execution.pending := hs.place
  cases h with
  | next hk ho hpending hnext =>
    -- The entry is the only declared step.
    rcases hplace with ⟨rfl, -⟩ | ⟨rfl, -⟩ | ⟨rfl, -⟩
    · simp [controller, FlowDefinition.nextDeclared?, FlowDefinition.sessionLimited,
        FlowDefinition.sessionLimitedSteps, FlowDefinition.nextAfter, StepDescriptor.on,
        StepDescriptor.plain] at hnext
    · cases ho
    · cases ho
  | last hk ho hpending _ =>
    exact hs.of_promised_nil (.inl hpending) rfl rfl (promised_nil hpending)
  | rest hk hn =>
    rcases hplace with ⟨rfl, hnil⟩ | ⟨rfl, hnil⟩ | ⟨rfl, hproceed⟩
    · exact absurd ⟨rfl, hnil⟩ hn
    · exact hs.of_promised_nil (.inl hnil) rfl rfl (promised_nil hnil)
    · exact ⟨.inr (.inr (.inl hproceed)), hs.principal, hs.sound, hs.bound⟩
  | execute hk | route hk => cases (gate_of_continuation hk).2
  | again hk => exact hs.of_promised_nil rfl rfl rfl (promised_nil rfl)
  | @pass gate verdict hk _ hr =>
    obtain ⟨hentry, hgate⟩ := gate_of_continuation hk
    obtain rfl := Continuation.sessionLimitGate.inj hgate
    exact kept_of_pass hb hs (hplace.of_entry hentry) hr
  | @refuse gate cause hk _ hr =>
    obtain rfl := Continuation.sessionLimitGate.inj (gate_of_continuation hk).2
    cases (l.evaluationAt_gate _).1.symm.trans hr

theorem kept_of_turn (hb : l.limit.value ≤ b) (hlisted : b ≤ sessionListLimit)
    (hf : l.stamps.Fresh first) {told : Option Outcome} {m m' : Moment (StampedStore × ρ)}
    (h : l.controller.Turn told m m') (hm : l.Kept first p b m) : l.Kept first p b m' := by
  cases h with
  | @start s =>
    have hqueue : s.attempt.execution.pending = [] := hm.place
    have hentry : s.attempt.execution.pending ++ [⟨l.controller.definition.entry, .declared⟩] =
        [⟨l.entry, .declared⟩] := by
      rw [hqueue]
      rfl
    exact hm.of_promised_nil (.inr (.inl hentry)) rfl rfl
      (promised_eq_zero fun h => by simpa using hentry.symm.trans h)
  | follow hr he => exact kept_of_ensues hb he (kept_of_reports hb hlisted hf hr hm)
  | suspend hx =>
    have hs := kept_of_executes hb hlisted hf hx hm
    exact ⟨hs.place, hs.principal, hs.sound, hs.bound⟩
  | crash hx =>
    exact (kept_of_executes hb hlisted hf hx hm).of_promised_nil rfl rfl rfl (promised_nil rfl)
  | exceed hq => exact hm.of_promised_nil rfl rfl rfl (promised_nil rfl)
  | conclude hq => exact hm.of_promised_nil hq rfl rfl (promised_nil hq)

/-- A call keeps the sum within the bound, if there is room for the limit. -/
theorem kept_of_perform (hlisted : b ≤ sessionListLimit) (hf : l.stamps.Fresh first)
    {stage : Stage} {s : Situation (StampedStore × ρ)} {call : Call}
    (hb : s.attempt.execution.Admits call → l.limit.value ≤ b)
    (ha : stage.Agrees s.attempt.execution) (hs : l.Kept first p b ⟨stage, s⟩) :
    ∃ stage', stage'.Agrees (l.controller.perform call s).2.attempt.execution ∧
      l.Kept first p b ⟨stage', (l.controller.perform call s).2⟩ := by
  by_cases hadmits : s.attempt.execution.Admits call
  · rcases l.controller.perform_turns call ha with ⟨hr, -⟩ | ⟨-, stage', hreach⟩
    · exact absurd (Controller.isRefused_iff.1 hr) (not_not_intro hadmits)
    · exact ⟨stage', hreach.agrees,
        hreach.turns.keeps (fun _ _ _ => kept_of_turn (hb hadmits) hlisted hf) hs⟩
  · rw [l.controller.perform_of_not_admits hadmits]
    exact ⟨stage, ha, hs⟩

/-! ### All attempts -/

section Crowd

variable {ι : Type} [Fintype ι] [DecidableEq ι] {w : Crowd ι (StampedStore × ρ)} {i : ι}
  {call : Call} {K : Nat}

/-- The sessions that some of the attempts have promised. -/
def promisedBy (l : LoginSteps ρ) (w : Crowd ι (StampedStore × ρ)) (chosen : Finset ι) : Nat :=
  ∑ i ∈ chosen, l.promised (w.members i).execution

/-- The sessions of `p` that are held and those that any attempt has promised stay
    within a bound. -/
structure Bounded (l : LoginSteps ρ) (first : SessionStore) (p : Principal) (b : Nat)
    (w : Crowd ι (StampedStore × ρ)) : Prop where
  /-- In each attempt, the steps wait that the flow leads to. -/
  place (i : ι) : ∃ stage : Stage, stage.Agrees (w.members i).execution ∧
    l.Place stage (w.members i).execution.pending
  /-- All attempts are of `p`. -/
  principal (i : ι) : (w.members i).situation.attempt.principal = p
  /-- Only stamped sessions were added to the store. -/
  sound : w.state.1.Sound l.stamps first
  /-- The sessions stay within the bound. -/
  bound : w.state.1.store.count p + l.promisedBy w Finset.univ ≤ b

theorem promisedBy_univ (w : Crowd ι (StampedStore × ρ)) (i : ι) :
    l.promisedBy w Finset.univ =
      l.promised (w.members i).execution + l.promisedBy w (Finset.univ.erase i) :=
  (Finset.add_sum_erase _ _ (Finset.mem_univ i)).symm

/-- A call changes nothing about the others. -/
theorem promisedBy_serve : l.promisedBy (l.controller.serve w i call) (Finset.univ.erase i) =
    l.promisedBy w (Finset.univ.erase i) := by
  refine Finset.sum_congr rfl fun j hj => ?_
  rw [Controller.members_serve_of_ne (Finset.ne_of_mem_erase hj)]

/-- The others have promised no more sessions than there are others underway. -/
theorem Bounded.promisedBy_le (h : l.Bounded first p b w) (i : ι) :
    l.promisedBy w (Finset.univ.erase i) ≤ (w.underway.erase i).card := by
  rw [Crowd.underway, ← Finset.filter_erase, Finset.card_filter]
  refine Finset.sum_le_sum fun j _ => ?_
  obtain ⟨stage, ha, hplace⟩ := h.place j
  exact hplace.promised_le ha

theorem Bounded.promisedBy_lt (h : l.Bounded first p b w)
    (hK : (w.engaged (.call i call)).card ≤ K) (ha : (w.members i).execution.Admits call) :
    l.promisedBy w (Finset.univ.erase i) < K := by
  rw [Crowd.engaged, if_pos ha] at hK
  have hcard : ((insert i w.underway).erase i).card + 1 = (insert i w.underway).card :=
    Finset.card_erase_add_one (Finset.mem_insert_self i _)
  rw [Finset.erase_insert_eq_erase] at hcard
  have hle := h.promisedBy_le i
  omega

/-- Each of the attempts stays within what the others leave of the bound. -/
theorem Bounded.kept (h : l.Bounded first p b w) (i : ι) :
    ∃ stage : Stage, stage.Agrees (w.members i).execution ∧
      l.Kept first p (b - l.promisedBy w (Finset.univ.erase i))
        ⟨stage, (w.course i).situation⟩ := by
  obtain ⟨stage, ha, hplace⟩ := h.place i
  refine ⟨stage, ha, hplace, h.principal i, h.sound, ?_⟩
  have hbound := h.bound
  rw [promisedBy_univ w i, ← Nat.add_assoc] at hbound
  exact Nat.le_sub_of_add_le hbound

/-- What the others leave of the bound has room for the limit. -/
theorem Bounded.room (h : l.Bounded first p b w) (hb : l.limit.value - 1 + K ≤ b)
    (hK : (w.engaged (.call i call)).card ≤ K) (ha : (w.members i).execution.Admits call) :
    l.limit.value ≤ b - l.promisedBy w (Finset.univ.erase i) := by
  have hlt := h.promisedBy_lt hK ha
  have hpos := l.limit.pos
  omega

/-- A call keeps the sum over all attempts within the bound. -/
theorem Bounded.serve (h : l.Bounded first p b w) (hf : l.stamps.Fresh first)
    (hlisted : b ≤ sessionListLimit) (hb : l.limit.value - 1 + K ≤ b)
    (hK : (w.engaged (.call i call)).card ≤ K) :
    l.Bounded first p b (l.controller.serve w i call) := by
  have hle : l.promisedBy w (Finset.univ.erase i) ≤ b := by
    have hbound := h.bound
    rw [promisedBy_univ w i] at hbound
    omega
  obtain ⟨stage, ha, hkept⟩ := h.kept i
  obtain ⟨stage', ha', hkept'⟩ :=
    kept_of_perform (Nat.le_trans (Nat.sub_le _ _) hlisted) hf (h.room hb hK) ha hkept
  refine ⟨?_, ?_, hkept'.sound, ?_⟩
  · exact Controller.forall_members_serve (P := fun _ k => ∃ stage : Stage,
      stage.Agrees k.execution ∧ l.Place stage k.execution.pending)
      h.place ⟨stage', ha', hkept'.place⟩
  · exact Controller.forall_members_serve (P := fun _ k => k.situation.attempt.principal = p)
      h.principal hkept'.principal
  · rw [promisedBy_univ _ i, promisedBy_serve, ← Nat.add_assoc, Controller.members_serve]
    exact Nat.add_le_of_le_sub hle hkept'.bound

omit [DecidableEq ι] in
/-- Closing sessions makes them fewer. -/
theorem Bounded.terminate (h : l.Bounded first p b w) (id : String) :
    l.Bounded first p b { w with state := (w.state.1.terminate id, w.state.2) } where
  place := h.place
  principal := h.principal
  sound := h.sound.terminate id
  bound := by
    refine Nat.le_trans (Nat.add_le_add_right ?_ _) h.bound
    rw [SessionStore.count, StampedStore.terminate, h.sound.distinct.live_terminate]
    exact List.length_filter_le _ _

/-- What closes sessions besides the attempts. -/
abbrev closer (ρ : Type) : Terminator (StampedStore × ρ) :=
  SessionStore.terminator (StampedStore.beside ρ)

section Acts

variable (hf : l.stamps.Fresh first) (hlisted : b ≤ sessionListLimit)
  (hb : l.limit.value - 1 + K ≤ b)
include hf hlisted hb

theorem Bounded.act (h : l.Bounded first p b w) {a : Act ι} (hK : (w.engaged a).card ≤ K) :
    l.Bounded first p b (l.controller.act (closer ρ) w a) := by
  rcases a with ⟨i, call⟩ | id
  · exact h.serve hf hlisted hb hK
  · exact h.terminate id

theorem Bounded.acts {acts : List (Act ι)} (h : l.Bounded first p b w)
    (hK : l.controller.AtMost (closer ρ) K w acts) :
    l.Bounded first p b (acts.foldl (l.controller.act (closer ρ)) w) := by
  induction acts generalizing w with
  | nil => exact h
  | cons a later ih => exact ih (h.act hf hlisted hb hK.1) hK.2

/-- The sessions that are held stay within the bound all the time. -/
theorem Bounded.count_le (h : l.Bounded first p b w) {a : Act ι} (hK : (w.engaged a).card ≤ K)
    {s : StampedStore × ρ} (hs : l.controller.Visits (closer ρ) w a s) :
    s.1.store.count p ≤ b := by
  cases hs with
  | @during i call stage told m hadmits ha htold hturns =>
    obtain ⟨stage', ha', hkept⟩ := h.kept i
    obtain rfl := ha.eq_of_admits ha' hadmits
    have hm := hturns.keeps (fun _ _ _ => kept_of_turn (h.room hb hK hadmits)
      (Nat.le_trans (Nat.sub_le _ _) hlisted) hf) hkept
    exact Nat.le_trans (Nat.le_trans (Nat.le_add_right _ _) hm.bound) (Nat.sub_le _ _)
  | after => exact Nat.le_trans (Nat.le_add_right _ _) (h.act hf hlisted hb hK).bound

end Acts

omit [DecidableEq ι] in
theorem bounded_gather (hfirst : first.Distinct) (hf : l.stamps.Fresh first) (hidden : ρ)
    (p : Principal) (attributes : ι → Attributes) (hb : first.count p ≤ b) :
    l.Bounded first p b
      (.gather (fun i => .new p (attributes i)) (StampedStore.unstamped first, hidden)) where
  place _ := ⟨.ready, rfl, rfl⟩
  principal _ := rfl
  sound := StampedStore.sound_unstamped hfirst hf
  bound := by
    rw [promisedBy, Finset.sum_eq_zero fun _ _ => promised_nil rfl]
    exact hb

end Crowd

/-- Attempts of `p` go through the built-in flow, called for in any order, and
    whoever may do so closes sessions meanwhile. If at most `K` attempts are
    underway at any time, `p` never holds more sessions than at first, or than
    `K - 1` over the limit, whichever is more. One attempt after another does not
    overshoot the limit at all. All these sessions have to fit a listing. -/
theorem overshoot_le {ι : Type} [Fintype ι] [DecidableEq ι] (l : LoginSteps ρ)
    {first : SessionStore} (hfirst : first.Distinct) (hf : l.stamps.Fresh first) (hidden : ρ)
    (p : Principal) (attributes : ι → Attributes) {K : Nat}
    (hn : first.count p ≤ sessionListLimit) (hk : l.limit.value - 1 + K ≤ sessionListLimit)
    {acts : List (Act ι)}
    (hK : l.controller.AtMost (closer ρ) K
      (.gather (fun i => .new p (attributes i)) (StampedStore.unstamped first, hidden)) acts) :
    ∀ before a, before ++ [a] <+: acts →
      ∀ s, l.controller.Visits (closer ρ)
          (before.foldl (l.controller.act (closer ρ))
            (.gather (fun i => .new p (attributes i)) (StampedStore.unstamped first, hidden))) a s →
        s.1.store.count p ≤ max (first.count p) (l.limit.value - 1 + K) ∧
          (K = 1 → s.1.store.count p ≤ max (first.count p) l.limit.value) := by
  intro before a hprefix s hs
  obtain ⟨later, rfl⟩ := hprefix
  have hstart := bounded_gather hfirst hf hidden p attributes
    (Nat.le_max_left (first.count p) (l.limit.value - 1 + K))
  have hlisted : max (first.count p) (l.limit.value - 1 + K) ≤ sessionListLimit :=
    Nat.max_le.2 ⟨hn, hk⟩
  have hroom := Nat.le_max_right (first.count p) (l.limit.value - 1 + K)
  rw [List.append_assoc] at hK
  obtain ⟨hbefore, ha, -⟩ := hK.of_append
  have hcount := (hstart.acts hf hlisted hroom hbefore).count_le hf hlisted hroom ha hs
  refine ⟨hcount, ?_⟩
  rintro rfl
  rwa [Nat.sub_add_cancel l.limit.pos] at hcount

end LoginSteps

/-- Steps of a login that all succeed, with room for one session. -/
def hastySteps : LoginSteps Unit where
  limit := ⟨1, by decide, by decide⟩
  entry := ⟨"1"⟩
  proceed := ⟨"2"⟩
  remediation := ⟨"3"⟩
  stamps := letteredStamps
  executor := ⟨fun step a s =>
    ⟨.ok (if step = ⟨"3"⟩ then .suspended else .completed .success), a.attributes,
      if step = ⟨"2"⟩ then (s.1.openSession letteredStamps a.principal "" "" "", ())
      else if step = ⟨"3"⟩ then (s.1.trim 1 a.principal, ()) else s⟩⟩
  distinct := by decide
  enters _ _ := rfl
  opens _ _ := ⟨"", "", "", rfl⟩
  trims _ _ := rfl

/-- Logins of one principal, when nobody holds a session. -/
def loginsOfAlice : Crowd (Fin 3) (StampedStore × Unit) :=
  .gather (fun _ => .new alice .empty) (StampedStore.unstamped .empty, ())

/-- The second of three logins makes room and is suspended, so that the third one
    takes the room before the second one opens its session. -/
def crossedCalls : List (Act (Fin 3)) :=
  [.call 0 .start, .call 1 .start, .call 2 .start, .call 1 (.resume .success)]

/-- With two logins underway at a time, the bound is reached. -/
theorem overshoot_of_crossedCalls :
    hastySteps.controller.AtMost (LoginSteps.closer Unit) 2 loginsOfAlice crossedCalls ∧
      (crossedCalls.foldl (hastySteps.controller.act (LoginSteps.closer Unit))
        loginsOfAlice).state.1.store.count alice = 2 ∧
      (crossedCalls.foldl (hastySteps.controller.act (LoginSteps.closer Unit))
        loginsOfAlice).state.1.store.count alice ≤
          max (SessionStore.empty.count alice) (hastySteps.limit.value - 1 + 2) := by
  have hK : hastySteps.controller.AtMost (LoginSteps.closer Unit) 2 loginsOfAlice crossedCalls :=
    ⟨by decide +kernel, by decide +kernel, by decide +kernel, by decide +kernel, trivial⟩
  have hf : letteredStamps.Fresh SessionStore.empty := by
    refine fresh_letteredStamps ?_
    rintro id ⟨p, x, hx, -⟩
    cases hx
  have hle := hastySteps.overshoot_le SessionStore.distinct_empty hf () alice (fun _ => .empty)
    (by decide) (by decide) hK
  exact ⟨hK, rfl, (hle [.call 0 .start, .call 1 .start, .call 2 .start]
    (.call 1 (.resume .success)) List.prefix_rfl _ .after).1⟩

end LoginGate
