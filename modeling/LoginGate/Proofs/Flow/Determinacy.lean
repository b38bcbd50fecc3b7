import LoginGate.Proofs.Flow.Turn

/-!
# Turns are determined

What a turn does depends on the moment and on the outcome that the attempt is
resumed with, and on nothing else: the executor and the registry act on the
state of the situation. So there is only one chain of turns in which the attempt
is resumed with given outcomes.

* `advance`: where the turn leads that is due when no outcome is awaited;
* `turn_cases`: what a turn does at each stage;
* `Turns.lockstep`: two chains with the same outcomes keep step, and what their turns keep
  holds at their ends;
* `Turns.unique`: two chains with the same outcomes that stop between calls stop
  at the same moment;
* `Turns.last`: what comes last in a chain.
-/

namespace LoginGate

/-! ### Stages and results -/

namespace Stage

/-- No turn is due: the stage is that of a suspended attempt, or of one that is
    over. -/
def IsRest : Stage → Prop
  | .waiting _ | .over _ => True
  | .ready | .going => False

theorem result?_eq_error_iff {stage : Stage} {e : FlowError} :
    stage.result? = some (.error e) ↔ stage = .over (.error e) := by
  rcases stage with _ | _ | p | (error | report) <;> simp [result?, Except.map]

theorem result?_eq_complete_iff {stage : Stage} {report : FlowReport} :
    stage.result? = some (.ok (.complete report)) ↔ stage = .over (.ok report) := by
  rcases stage with _ | _ | p | (error | report') <;> simp [result?, Except.map]

theorem result?_eq_suspended_iff {stage : Stage} {step : StepId} :
    stage.result? = some (.ok (.suspended step)) ↔ ∃ p, stage = .waiting p ∧ p.step = step := by
  rcases stage with _ | _ | p | (error | report) <;> simp [result?, Except.map]

theorem Agrees.isRest {stage : Stage} {e : Execution} (h : stage.Agrees e) (hs : stage ≠ .ready) :
    stage.IsRest := by
  rcases stage with _ | _ | p | result
  · exact absurd rfl hs
  · exact h.elim
  · trivial
  · trivial

end Stage

namespace Controller

variable {σ : Type} (c : Controller σ)

/-! ### One turn -/

/-- The moment after the turn that is due when the next waiting step is. -/
def advance (s : Situation σ) : Moment σ :=
  match s.attempt.execution.pending with
  | [] =>
    let last := s.attempt.execution.lastOutcome.getD .failure
    ⟨.over (.ok ⟨s.attempt.execution.executed, last⟩), s.finish last⟩
  | p :: rest =>
    if maxSteps ≤ s.attempt.execution.executed.length then
      ⟨.over (.error (.stepLimitExceeded p.step)), s.fail (.stepLimitExceeded p.step)⟩
    else
      match (c.reply s p rest).result with
      | .error cause =>
        ⟨.over (.error (.step p.step cause)), (c.executed s p rest).fail (.step p.step cause)⟩
      | .ok .suspended => ⟨.waiting p, (c.executed s p rest).suspend p⟩
      | .ok (.completed outcome) =>
        momentAfter (c.onOutcome p.step p.origin outcome (c.executed s p rest))

variable {c}

theorem advance_nil {s : Situation σ} (h : s.attempt.execution.pending = []) :
    c.advance s = ⟨.over (.ok ⟨s.attempt.execution.executed,
        s.attempt.execution.lastOutcome.getD .failure⟩),
      s.finish (s.attempt.execution.lastOutcome.getD .failure)⟩ := by
  rw [advance, h]

theorem advance_full {s : Situation σ} {p : Pending} {rest : List Pending}
    (h : s.attempt.execution.pending = p :: rest)
    (hlen : maxSteps ≤ s.attempt.execution.executed.length) :
    c.advance s =
      ⟨.over (.error (.stepLimitExceeded p.step)), s.fail (.stepLimitExceeded p.step)⟩ := by
  rw [advance, h]
  exact if_pos hlen

theorem advance_cons {s : Situation σ} {p : Pending} {rest : List Pending}
    (h : s.attempt.execution.pending = p :: rest)
    (hlen : s.attempt.execution.executed.length < maxSteps) :
    c.advance s =
      match (c.reply s p rest).result with
      | .error cause =>
        ⟨.over (.error (.step p.step cause)), (c.executed s p rest).fail (.step p.step cause)⟩
      | .ok .suspended => ⟨.waiting p, (c.executed s p rest).suspend p⟩
      | .ok (.completed outcome) =>
        momentAfter (c.onOutcome p.step p.origin outcome (c.executed s p rest)) := by
  rw [advance, h]
  exact if_neg (Nat.not_le.2 hlen)

/-- What follows an outcome is what the controller does about it. -/
theorem Ensues.eq_momentAfter {p : Pending} {outcome : Outcome} {s : Situation σ} {m : Moment σ}
    (h : c.Ensues p outcome s m) :
    m = momentAfter (c.onOutcome p.step p.origin outcome s) := by
  have hevaluated : (s.report p.step outcome).attempt.execution.evaluated =
      s.attempt.execution.evaluated := rfl
  have hpending : (s.report p.step outcome).attempt.execution.pending =
      s.attempt.execution.pending := rfl
  cases h with
  | next hk hp hs hn | last hk hp hs hn =>
    simp only [onOutcome, hk, hpending, hp, hs, hn, and_self, if_true, momentAfter]
  | rest hk hn => simp only [onOutcome, hk, hpending, if_neg hn, momentAfter]
  | execute hk => simp only [onOutcome, hk, momentAfter]
  | again hk he => simp only [onOutcome, hk, passGate_again (hevaluated.trans he), momentAfter]
  | pass hk he hr | refuse hk he hr =>
    simp only [onOutcome, hk, passGate_first (hevaluated.trans he), hr, momentAfter]
  | route hk => simp only [onOutcome, hk, momentAfter]

theorem Ensues.unique {p : Pending} {outcome : Outcome} {s : Situation σ} {m m' : Moment σ}
    (h : c.Ensues p outcome s m) (h' : c.Ensues p outcome s m') : m = m' :=
  h.eq_momentAfter.trans h'.eq_momentAfter.symm

/-- A step that is executed is the first one that waits. -/
theorem Executes.exists_rest {s s' : Situation σ} {p : Pending} {r : Except StepError StepStatus}
    (h : c.Executes s p r s') :
    ∃ rest, s.attempt.execution.pending = p :: rest ∧
      s.attempt.execution.executed.length < maxSteps ∧
      (c.reply s p rest).result = r ∧ c.executed s p rest = s' := by
  cases h with
  | mk hp hlen => exact ⟨_, hp, hlen, rfl, rfl⟩

/-- What a turn does at each stage, and when the attempt is resumed in it. -/
theorem turn_cases {told : Option Outcome} {m m' : Moment σ} (h : c.Turn told m m') :
    match m.stage with
    | .ready => told = none ∧ m' = ⟨.going, m.situation.withPending
        (m.situation.attempt.execution.pending ++ [⟨c.definition.entry, .declared⟩])⟩
    | .going => told = none ∧ m' = c.advance m.situation
    | .waiting p => ∃ outcome, told = some outcome ∧
        m' = momentAfter (c.onOutcome p.step p.origin outcome m.situation.wake)
    | .over _ => False := by
  cases h with
  | start => exact ⟨rfl, rfl⟩
  | follow hr he =>
    cases hr with
    | completed hx =>
      obtain ⟨rest, hp, hlen, hr, rfl⟩ := hx.exists_rest
      refine ⟨rfl, ?_⟩
      rw [he.eq_momentAfter, advance_cons hp hlen, hr]
    | resumed => exact ⟨_, rfl, he.eq_momentAfter⟩
  | suspend hx =>
    obtain ⟨rest, hp, hlen, hr, rfl⟩ := hx.exists_rest
    exact ⟨rfl, by rw [advance_cons hp hlen, hr]⟩
  | crash hx =>
    obtain ⟨rest, hp, hlen, hr, rfl⟩ := hx.exists_rest
    exact ⟨rfl, by rw [advance_cons hp hlen, hr]⟩
  | exceed hp hlen => exact ⟨rfl, (advance_full hp hlen).symm⟩
  | conclude hp => exact ⟨rfl, (advance_nil hp).symm⟩

/-- Where the next waiting step is due, there is a turn. -/
theorem turn_advance (s : Situation σ) : c.Turn none ⟨.going, s⟩ (c.advance s) := by
  cases hp : s.attempt.execution.pending with
  | nil =>
    rw [advance_nil hp]
    exact .conclude hp
  | cons p rest =>
    rcases Nat.lt_or_ge s.attempt.execution.executed.length maxSteps with hlen | hlen
    · have hx : c.Executes s p (c.reply s p rest).result (c.executed s p rest) := .mk hp hlen
      rw [advance_cons hp hlen]
      split
      · next cause hr => exact .crash (hr ▸ hx)
      · next hr => exact .suspend (hr ▸ hx)
      · next outcome hr => exact .follow (.completed (hr ▸ hx)) (c.ensues_onOutcome p outcome _)
    · rw [advance_full hp hlen]
      exact .exceed hp hlen

/-- The attempt is resumed in a turn if and only if it waits for an outcome. -/
theorem Turn.told_isSome {told : Option Outcome} {m m' : Moment σ} (h : c.Turn told m m') :
    told.isSome ↔ ∃ p, m.stage = .waiting p := by
  have hm := turn_cases h
  obtain ⟨_ | _ | p | result, s⟩ := m
  · obtain ⟨rfl, -⟩ := hm
    simp
  · obtain ⟨rfl, -⟩ := hm
    simp
  · obtain ⟨outcome, rfl, -⟩ := hm
    simp
  · exact hm.elim

theorem Turn.unique {told : Option Outcome} {m m₁ m₂ : Moment σ} (h₁ : c.Turn told m m₁)
    (h₂ : c.Turn told m m₂) : m₁ = m₂ := by
  have hm₁ := turn_cases h₁
  have hm₂ := turn_cases h₂
  obtain ⟨_ | _ | p | result, s⟩ := m
  · exact hm₁.2.trans hm₂.2.symm
  · exact hm₁.2.trans hm₂.2.symm
  · obtain ⟨outcome, rfl, rfl⟩ := hm₁
    obtain ⟨outcome', ho, rfl⟩ := hm₂
    obtain rfl := Option.some.inj ho
    rfl
  · exact hm₁.elim

/-! ### Chains of turns -/

/-- From a moment at which no turn is due, none leads on without an outcome. -/
theorem Turns.eq_of_isRest {m m' : Moment σ} (h : c.Turns [] m m') (hm : m.stage.IsRest) :
    m' = m := by
  generalize ht : ([] : List Outcome) = told at h
  cases h with
  | refl => rfl
  | @head o later _ _ _ h _ =>
    have ho : o = none := by
      cases o with
      | none => rfl
      | some outcome => cases ht
    subst ho
    have hcases := turn_cases h
    obtain ⟨_ | _ | p | result, s⟩ := m
    · exact hm.elim
    · exact hm.elim
    · obtain ⟨outcome, hnone, -⟩ := hcases
      cases hnone
    · exact hcases.elim

/-- Two chains of turns, in which attempts are resumed with the same outcomes
    and which stop between calls, keep step. What each turn of both keeps holds at
    their ends, if it shows that the stages are the same. What it needs of the
    moments that it leads to may be known of the ends alone. -/
theorem Turns.lockstep {τ : Type} {c' : Controller τ} {P Q : Moment σ → Moment τ → Prop}
    (hstage : ∀ {m n}, P m n → m.stage = n.stage)
    (hback : ∀ {told told' m m' n n'}, c.Turns told m m' → c'.Turns told' n n' → Q m' n' → Q m n)
    (hturn : ∀ {told m m' n n'}, c.Turn told m m' → c'.Turn told n n' → P m n → Q m' n' → P m' n')
    {told : List Outcome} {m m' : Moment σ} {n n' : Moment τ} (h : c.Turns told m m')
    (h' : c'.Turns told n n') (hm : m'.stage.IsRest) (hn : n'.stage.IsRest) (hP : P m n)
    (hQ : Q m' n') : P m' n' := by
  induction h generalizing n with
  | refl =>
    rw [h'.eq_of_isRest (hstage hP ▸ hm)]
    exact hP
  | @head o later m m₁ m' h hs ih =>
    generalize ht : o.toList ++ later = told at h'
    cases h' with
    | refl =>
      have hs' : c.Turns (o.toList ++ later) m m' := .head h hs
      rw [ht] at hs'
      rw [hs'.eq_of_isRest (hstage hP ▸ hn)]
      exact hP
    | @head o' later' _ n₁ _ h₁ hs₁ =>
      -- Either turn resumes the attempt if the stage says so.
      have hsome : o.isSome ↔ o'.isSome := by rw [h.told_isSome, h₁.told_isSome, hstage hP]
      have ho : o = o' ∧ later = later' := by
        cases o with
        | none =>
          cases o' with
          | none => exact ⟨rfl, ht⟩
          | some outcome => simp at hsome
        | some outcome =>
          cases o' with
          | none => simp at hsome
          | some outcome' =>
            obtain ⟨rfl, rfl⟩ := List.cons.inj ht
            exact ⟨rfl, rfl⟩
      obtain ⟨rfl, rfl⟩ := ho
      exact ih hs₁ hm (hturn h h₁ hP (hback hs hs₁ hQ)) hQ

/-- There is only one moment between calls to which turns lead in which the
    attempt is resumed with given outcomes. -/
theorem Turns.unique {told : List Outcome} {m m₁ m₂ : Moment σ} (h₁ : c.Turns told m m₁)
    (h₂ : c.Turns told m m₂) (hm₁ : m₁.stage.IsRest) (hm₂ : m₂.stage.IsRest) : m₁ = m₂ := by
  refine h₁.lockstep (P := Eq) (Q := fun _ _ => True) (congrArg Moment.stage) (fun _ _ _ => trivial)
    (fun ht ht' heq _ => ?_) h₂ hm₁ hm₂ rfl trivial
  subst heq
  exact ht.unique ht'

/-- Turns end with a last one, unless there is none. -/
theorem Turns.last {told : List Outcome} {m m' : Moment σ} (h : c.Turns told m m') :
    told = [] ∧ m' = m ∨
      ∃ before o m₀, c.Turns before m m₀ ∧ c.Turn o m₀ m' ∧ told = before ++ o.toList := by
  induction h with
  | refl => exact .inl ⟨rfl, rfl⟩
  | @head o later m m₁ m' h hs ih =>
    obtain ⟨rfl, rfl⟩ | ⟨before, o', m₀, hbefore, hlast, rfl⟩ := ih
    · exact .inr ⟨[], o, m, .refl, h, by simp⟩
    · exact .inr ⟨o.toList ++ before, o', m₀, .head h hbefore, hlast,
        (List.append_assoc ..).symm⟩

end Controller

end LoginGate
