import LoginGate.Proofs.Flow.Overshoot
import LoginGate.Proofs.Flow.Separation

/-!
# What remediation achieves

A login through the built-in flow, all of whose steps succeed, opens a session in
the end. If there is no room for it, the oldest of the sessions that a listing
holds are closed first, and then the limit is kept exactly. But no session is
closed if the limit is beyond what a listing holds; and sessions that are not
listed stay, so that with more of them than a listing holds the limit is exceeded
after the login as it was before.

* `run_atEntry`, `Underway.run_remediation`, `Underway.run_proceed`: what each of
  the steps does;
* `start_of_succeeds`: the whole login;
* `remediation_makes_room`: how many sessions there are then, and which.
-/

namespace LoginGate

namespace LoginSteps

variable {ρ : Type} (l : LoginSteps ρ)

/-- All steps succeed. -/
def Succeeds : Prop :=
  ∀ step a s, (l.executor.execute step a s).result = .ok (.completed .success)

/-- In a login of `p`, steps have been executed with success, others are scheduled,
    and the sessions are those of a store. -/
structure Underway (p : Principal) (executed scheduled : List StepId) (store : StampedStore)
    (s : Situation (StampedStore × ρ)) : Prop where
  /-- The attempt is one of `p`. -/
  principal : s.attempt.principal = p
  /-- The steps that have been executed. -/
  executed : s.attempt.execution.executed = executed
  /-- The steps that are scheduled. -/
  scheduled : s.attempt.execution.pending = scheduled.map (⟨·, .scheduled⟩)
  /-- The last step was a success. -/
  success : s.attempt.execution.lastOutcome = some .success
  /-- The sessions. -/
  store : s.state.1 = store

variable {l} {p : Principal} {executed scheduled : List StepId} {store : StampedStore}
  {s : Situation (StampedStore × ρ)} {budget : Nat} {step : StepId}

theorem entry_ne (l : LoginSteps ρ) : l.entry ≠ l.proceed ∧ l.entry ≠ l.remediation := by
  have hentry := (List.nodup_cons.1 l.distinct).1
  simpa only [List.mem_cons, List.not_mem_nil, or_false, not_or] using hentry

/-! ### Steps -/

/-- A step that succeeds is followed by what its success leads to. -/
theorem run_succ (hsuccess : l.Succeeds) {q : Pending} {rest : List Pending}
    (hpending : s.attempt.execution.pending = q :: rest) {s' : Situation (StampedStore × ρ)}
    (hnext : l.controller.onOutcome q.step q.origin .success
      (l.controller.executed s q rest) = (.ok (), s')) :
    l.controller.run (budget + 1) s = l.controller.run budget s' := by
  have hreply : (l.controller.reply s q rest).result = .ok (.completed .success) :=
    hsuccess q.step _ _
  rw [Controller.run_succ hpending, hreply]
  dsimp only
  rw [hnext]

/-- The gate schedules what the number of sessions calls for. -/
theorem passGate_gate {t : Situation (StampedStore × ρ)}
    (h : t.attempt.execution.evaluated = false) :
    l.controller.passGate step l.gate t =
      (.ok (l.gate.steps
        (Verdict.ofCount (t.state.1.store.count t.attempt.principal) l.limit).isWithin),
      ((t.enterGate l.gate).read (l.controller.evaluationAt l.gate t)).note (.decided
        (Verdict.ofCount (t.state.1.store.count t.attempt.principal) l.limit).isWithin)) := by
  rw [Controller.passGate_first h, (l.evaluationAt_gate t).1]

/-- A login of `p` that is about to execute the entry. -/
def atEntry (l : LoginSteps ρ) (p : Principal) (attributes : Attributes)
    (state : StampedStore × ρ) : Situation (StampedStore × ρ) :=
  Situation.withPending ⟨.new p attributes, state, []⟩ [⟨l.entry, .declared⟩]

/-- The entry leaves the sessions alone, and what the gate behind it calls for is
    scheduled. -/
theorem run_atEntry (hsuccess : l.Succeeds) (p : Principal) (attributes : Attributes)
    (state : StampedStore × ρ) (budget : Nat) :
    ∃ s', l.controller.run (budget + 1) (l.atEntry p attributes state) =
        l.controller.run budget s' ∧
      Underway p [l.entry]
        (l.gate.steps (Verdict.ofCount (state.1.store.count p) l.limit).isWithin) state.1 s' := by
  have hgate : l.controller.definition.continuation? l.entry .success =
      some (.sessionLimitGate l.gate) := by
    rw [l.gatesEntry]
    exact if_pos ⟨rfl, rfl⟩
  obtain ⟨t, ht⟩ : ∃ t, (l.controller.executed (l.atEntry p attributes state)
      ⟨l.entry, .declared⟩ []).report l.entry .success = t := ⟨_, rfl⟩
  have hstore : t.state.1 = state.1 := ht ▸ l.enters _ _
  have hp : t.attempt.principal = p := ht ▸ rfl
  have hfirst : t.attempt.execution.evaluated = false := ht ▸ rfl
  have hnext : l.controller.onOutcome l.entry .declared .success
      (l.controller.executed (l.atEntry p attributes state) ⟨l.entry, .declared⟩ []) =
        (.ok (), (((t.enterGate l.gate).read (l.controller.evaluationAt l.gate t)).note
          (.decided (Verdict.ofCount (state.1.store.count p) l.limit).isWithin)).schedule
            (l.gate.steps (Verdict.ofCount (state.1.store.count p) l.limit).isWithin)) := by
    rw [Controller.onOutcome, hgate, ht]
    dsimp only
    rw [passGate_gate hfirst, hstore, hp]
  have hstate := (congrArg Prod.fst (l.evaluationAt_gate t).2).trans hstore
  subst ht
  exact ⟨_, run_succ hsuccess rfl hnext, rfl, rfl, List.append_nil _, rfl, hstate⟩

/-- The first of the scheduled steps is executed, and the others stay scheduled. -/
theorem Underway.run_cons (hsuccess : l.Succeeds) (hstep : l.entry ≠ step)
    (h : Underway p executed (step :: scheduled) store s) (budget : Nat) :
    ∃ a s', a.principal = p ∧ l.controller.run (budget + 1) s = l.controller.run budget s' ∧
      Underway p (executed ++ [step]) scheduled (l.executor.execute step a s.state).state.1 s' := by
  have hnone : l.controller.definition.continuation? step .success = none :=
    l.gatesEntry.plain hstep .success
  have hnext : l.controller.onOutcome step .scheduled .success
      (l.controller.executed s ⟨step, .scheduled⟩ (scheduled.map (⟨·, .scheduled⟩))) =
        (.ok (), (l.controller.executed s ⟨step, .scheduled⟩
          (scheduled.map (⟨·, .scheduled⟩))).report step .success) := by
    -- Only a declared step is followed by the next declared one.
    rw [Controller.onOutcome, hnone]
    exact if_neg fun h => absurd h.1 (by decide)
  exact ⟨(s.take step (scheduled.map (⟨·, .scheduled⟩))).attempt, _, h.principal,
    run_succ hsuccess h.scheduled hnext,
    h.principal, congrArg (· ++ [step]) h.executed, rfl, rfl, rfl⟩

/-- The remediation closes the oldest sessions, and what is scheduled stays so. -/
theorem Underway.run_remediation (hsuccess : l.Succeeds)
    (h : Underway p executed (l.remediation :: scheduled) store s) (budget : Nat) :
    ∃ s', l.controller.run (budget + 1) s = l.controller.run budget s' ∧
      Underway p (executed ++ [l.remediation]) scheduled (store.trim l.limit.value p) s' := by
  obtain ⟨a, s', ha, hrun, hs'⟩ := h.run_cons hsuccess l.entry_ne.2 budget
  rw [l.trims, h.store, ha] at hs'
  exact ⟨s', hrun, hs'⟩

/-- The step that proceeds opens a session, and if no other is scheduled the login
    ends with that. -/
theorem Underway.run_proceed (hsuccess : l.Succeeds)
    (h : Underway p executed [l.proceed] store s) (budget : Nat) :
    ∃ userAgent ipAddress serviceProvider s',
      l.controller.run (budget + 1) s =
        (.ok (.complete ⟨executed ++ [l.proceed], .success⟩), s') ∧
      s'.state.1 = store.openSession l.stamps p userAgent ipAddress serviceProvider := by
  obtain ⟨a, s', ha, hrun, hs'⟩ := h.run_cons hsuccess l.entry_ne.1 budget
  obtain ⟨userAgent, ipAddress, serviceProvider, hopens⟩ := l.opens a s.state
  rw [hopens, h.store, ha] at hs'
  refine ⟨userAgent, ipAddress, serviceProvider, s'.finish .success, ?_, hs'.store⟩
  rw [hrun, Controller.run_nil hs'.scheduled, Controller.conclude, hs'.success, hs'.executed]
  rfl

/-! ### The whole login -/

theorem start_eq (l : LoginSteps ρ) (p : Principal) (attributes : Attributes)
    (state : StampedStore × ρ) : l.controller.start (.new p attributes) state =
      Controller.settle (l.controller.run maxSteps (l.atEntry p attributes state)) := rfl

/-- The sessions that are left when the new one is opened. -/
def cleared (l : LoginSteps ρ) (p : Principal) (store : StampedStore) : StampedStore :=
  if store.store.count p < l.limit.value then store else store.trim l.limit.value p

theorem opened_cleared (l : LoginSteps ρ) (p : Principal) (store : StampedStore) :
    (l.cleared p store).opened = store.opened := by
  rw [cleared]
  split <;> rfl

/-- A login whose steps succeed is authenticated, and has opened a session after
    what the gate called for. -/
theorem start_of_succeeds (hsuccess : l.Succeeds) (p : Principal) (attributes : Attributes)
    (state : StampedStore × ρ) :
    ∃ userAgent ipAddress serviceProvider s',
      l.controller.start (.new p attributes) state =
        (.ok (.complete ⟨if state.1.store.count p < l.limit.value then [l.entry, l.proceed]
          else [l.entry, l.remediation, l.proceed], .success⟩), s') ∧
      s'.state.1 =
        (l.cleared p state.1).openSession l.stamps p userAgent ipAddress serviceProvider := by
  obtain ⟨s₁, hentry, hs₁⟩ := run_atEntry hsuccess p attributes state 63
  rw [start_eq, maxSteps, hentry]
  by_cases hlt : state.1.store.count p < l.limit.value
  · rw [steps_of_ofCount, if_pos hlt] at hs₁
    obtain ⟨userAgent, ipAddress, serviceProvider, s₂, hproceed, hstore⟩ :=
      hs₁.run_proceed hsuccess 62
    refine ⟨userAgent, ipAddress, serviceProvider, s₂, ?_, ?_⟩
    · rw [hproceed, if_pos hlt]
      rfl
    · rw [hstore, cleared, if_pos hlt]
  · rw [steps_of_ofCount, if_neg hlt] at hs₁
    obtain ⟨s₂, hremediation, hs₂⟩ := hs₁.run_remediation hsuccess 62
    obtain ⟨userAgent, ipAddress, serviceProvider, s₃, hproceed, hstore⟩ :=
      hs₂.run_proceed hsuccess 61
    refine ⟨userAgent, ipAddress, serviceProvider, s₃, ?_, ?_⟩
    · rw [hremediation, hproceed, if_neg hlt]
      rfl
    · rw [hstore, cleared, if_neg hlt]

/-- What is left of the sessions are those that are not listed, and the newest of
    the others, fewer than the limit. -/
theorem live_cleared {store : StampedStore} (h : store.store.Distinct) (l : LoginSteps ρ)
    (p : Principal) : (l.cleared p store).store.live p =
      (store.store.live p).take (store.store.count p - sessionListLimit) ++
        (store.store.live p).drop (store.store.count p - sessionListLimit +
          (min (store.store.count p) sessionListLimit - (l.limit.value - 1))) := by
  rw [cleared]
  split
  · next hlt =>
    -- All of the sessions are fewer than the limit.
    have hall : min (store.store.count p) sessionListLimit - (l.limit.value - 1) = 0 := by omega
    rw [hall, Nat.add_zero, List.take_append_drop]
  · exact h.live_trim l.limit.pos p

/-- In a store whose sessions have different ids, a login whose steps succeed, of
    somebody who holds `n` sessions, is authenticated and opens one more. With `n` below the limit, or the limit
    beyond what a listing holds, no session is closed. Otherwise sessions are
    closed until the limit is kept, and the newest remain; but with more sessions
    than a listing holds, those that are not listed remain too, and the limit is
    exceeded. -/
theorem remediation_makes_room (l : LoginSteps ρ) (hsuccess : l.Succeeds)
    (state : StampedStore × ρ) (h : state.1.store.Distinct) (p : Principal)
    (attributes : Attributes) :
    let L := l.limit.value
    let n := state.1.store.count p
    let held := state.1.store.live p
    ∃ report s' session,
      l.controller.start (.new p attributes) state = (.ok (.complete report), s') ∧
      report.isAuthenticated = true ∧
      report.executed = (if n < L then [l.entry, l.proceed]
        else [l.entry, l.remediation, l.proceed]) ∧
      session.id = (l.stamps p (state.1.opened p)).id ∧
      s'.state.1.store.count p = (if n < L ∨ 100 < L then n + 1 else n - min n 100 + L) ∧
      (n < L ∨ 100 < L → s'.state.1.store.live p = held ++ [session]) ∧
      (L ≤ n → n ≤ 100 → ∃ closed newest, held = closed ++ newest ∧ newest.length = L - 1 ∧
        s'.state.1.store.live p = newest ++ [session]) ∧
      (L ≤ 100 → 100 < n → ∃ unlisted closed newest, held = unlisted ++ closed ++ newest ∧
        unlisted.length = n - 100 ∧ newest.length = L - 1 ∧
        s'.state.1.store.live p = unlisted ++ newest ++ [session] ∧
        L < s'.state.1.store.count p) := by
  intro L n held
  obtain ⟨userAgent, ipAddress, serviceProvider, s', hstart, hstore⟩ :=
    start_of_succeeds hsuccess p attributes state
  have hlimit : 0 < L := l.limit.pos
  have hlength : held.length = n := rfl
  let session : Session := ⟨(l.stamps p (state.1.opened p)).id,
    (l.stamps p (state.1.opened p)).timestamp, userAgent, ipAddress, serviceProvider⟩
  have hlive : s'.state.1.store.live p = held.take (n - 100) ++
      held.drop (n - 100 + (min n 100 - (L - 1))) ++ [session] := by
    rw [hstore, StampedStore.live_openSession, l.live_cleared h p, opened_cleared]
    rfl
  -- The sessions that are not listed, those that are closed, and the newest.
  have hcut : held = held.take (n - 100) ++
      (held.drop (n - 100)).take (min n 100 - (L - 1)) ++
        held.drop (n - 100 + (min n 100 - (L - 1))) := by
    rw [List.append_assoc, ← List.drop_drop, List.take_append_drop, List.take_append_drop]
  have hcount : s'.state.1.store.count p =
      if n < L ∨ 100 < L then n + 1 else n - min n 100 + L := by
    rw [SessionStore.count, hlive]
    simp only [List.length_append, List.length_take, List.length_drop, List.length_singleton,
      hlength]
    split <;> omega
  refine ⟨_, s', session, hstart, rfl, rfl, rfl, hcount, ?kept, ?listed, ?unlisted⟩
  all_goals clear_value L n held
  case kept =>
    intro hroom
    have hnone : min n 100 - (L - 1) = 0 := by omega
    rw [hlive, hnone, Nat.add_zero, List.take_append_drop]
  case listed =>
    intro hfull hall
    have hnone : n - 100 = 0 := by omega
    rw [hnone, List.take_zero, List.nil_append] at hcut hlive
    refine ⟨_, _, hcut, ?_, hlive⟩
    rw [List.length_drop, hlength]
    omega
  case unlisted =>
    intro hlisted hmany
    refine ⟨_, _, _, hcut, ?_, ?_, hlive, ?_⟩
    · rw [List.length_take, hlength]
      omega
    · rw [List.length_drop, hlength]
      omega
    · rw [hcount, if_neg (by omega)]
      omega

end LoginSteps

/-- The steps of a login with room for one session, all of which succeed. -/
def steadySteps : LoginSteps Unit :=
  { hastySteps with
    executor := ⟨fun step a s =>
      ⟨.ok (.completed .success), a.attributes, (hastySteps.executor.execute step a s).state⟩⟩ }

/-- The old session of alice gives way to a new one. -/
theorem remediation_of_heldByAlice :
    steadySteps.Succeeds ∧ heldByAlice.Distinct ∧
      ∃ report s', steadySteps.controller.start (.new alice)
          (StampedStore.unstamped heldByAlice, ()) = (.ok (.complete report), s') ∧
        report.executed = [⟨"1"⟩, ⟨"3"⟩, ⟨"2"⟩] ∧
        (s'.state.1.store.live alice).map Session.id = ["balice"] := by
  have hsuccess : steadySteps.Succeeds := fun _ _ _ => rfl
  obtain ⟨report, s', session, hstart, -, hexecuted, hid, -, -, hnewest, -⟩ :=
    steadySteps.remediation_makes_room hsuccess (StampedStore.unstamped heldByAlice, ())
      dashed.distinct alice .empty
  refine ⟨hsuccess, dashed.distinct, report, s', hstart, hexecuted, ?_⟩
  -- No more than the limit would be kept, which has no room for an old session.
  obtain ⟨closed, newest, -, hlength, hlive⟩ := hnewest (by decide) (by decide)
  obtain rfl := List.length_eq_zero_iff.1 hlength
  rw [hlive, List.nil_append, List.map_singleton, hid]
  rfl

end LoginGate
