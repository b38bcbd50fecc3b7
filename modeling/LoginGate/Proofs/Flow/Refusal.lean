import LoginGate.Proofs.Flow.Turn

/-!
# Calls that are refused

An attempt is started once, and resumed only while it is suspended. A call that
the attempt does not admit is refused and changes nothing, and no other call is
(`isRefused_iff`). An attempt that is over admits none (`foldl_of_over`). So an attempt
that is suspended was resumed with every outcome that calls have given since it
was started (`told_of_suspended`).
-/

namespace LoginGate

/-- The outcomes that calls give, in order. -/
def resumes (calls : List Call) : List Outcome := calls.filterMap Call.outcome?

namespace Execution

theorem not_admits_of_over {e : Execution} {result : Except FlowError FlowReport}
    (h : (Stage.over result).Agrees e) (call : Call) : ¬e.Admits call := by
  have hs : e.state ≠ .notStarted ∧ ∀ step, e.state ≠ .suspended step := by
    cases result with
    | error error => simp [h.1]
    | ok report =>
      have hs : e.state = .complete report.lastOutcome := h
      simp [hs]
  cases call with
  | start => exact hs.1
  | resume outcome =>
    rintro ⟨step, hstep⟩
    exact hs.2 step hstep

end Execution

namespace Controller

variable {σ : Type} {c : Controller σ}

/-- A call that is admitted is not refused, also in a situation that no course
    leads to. -/
theorem not_refused_of_admits {call : Call} {s : Situation σ}
    (h : s.attempt.execution.Admits call) : isRefused (c.perform call s).1 = false := by
  cases call with
  | start =>
    obtain ⟨stage, hr⟩ := c.startIn_turns h
    exact hr.not_refused
  | resume outcome =>
    obtain ⟨step, hs⟩ := h
    obtain ⟨stage, hr⟩ := c.resumeIn_turns outcome hs
    exact hr.not_refused

/-- A call is refused if and only if the attempt is not ready for it. -/
theorem isRefused_iff {call : Call} {s : Situation σ} :
    isRefused (c.perform call s).1 = true ↔ ¬s.attempt.execution.Admits call := by
  constructor
  · intro h ha
    rw [not_refused_of_admits ha] at h
    cases h
  · intro h
    rw [c.perform_of_not_admits h, isRefused_refusal]

/-- A call that is refused changes nothing. -/
theorem situation_of_refused {call : Call} {s : Situation σ}
    (h : isRefused (c.perform call s).1 = true) : (c.perform call s).2 = s := by
  rw [c.perform_of_not_admits (isRefused_iff.1 h)]

/-! ### Courses -/

/-- The calls of a course may as well be made in two parts. -/
theorem course_append (c : Controller σ) (calls later : List Call) (attempt : Attempt) (state : σ) :
    c.course (calls ++ later) attempt state =
      later.foldl c.extend (c.course calls attempt state) := List.foldl_append

theorem extend_of_not_admits {k : Course σ} {call : Call} (h : ¬k.execution.Admits call) :
    (c.extend k call).situation = k.situation ∧ (c.extend k call).told = k.told := by
  have hr : isRefused (c.perform call k.situation).1 = true := isRefused_iff.2 h
  exact ⟨situation_of_refused hr, by rw [told_extend, if_pos hr]⟩

/-- When an attempt is over, no call changes anything. -/
theorem foldl_of_over {result : Except FlowError FlowReport} {k : Course σ}
    (h : (Stage.over result).Agrees k.execution) (calls : List Call) :
    (calls.foldl c.extend k).situation = k.situation := by
  induction calls generalizing k with
  | nil => rfl
  | cons call calls ih =>
    have hk : (c.extend k call).situation = k.situation :=
      (extend_of_not_admits (Execution.not_admits_of_over h call)).1
    have hover : (Stage.over result).Agrees (c.extend k call).execution := by
      rw [Course.execution, hk]
      exact h
    exact (ih hover).trans hk

/-- An attempt that was started and is suspended after a call was so before, and
    is resumed with the outcome of the call. -/
theorem Follows.told_extend_of_waiting {first : Moment σ} {k : Course σ} {stage : Stage}
    (h : c.Follows first k stage) (hs : stage ≠ .ready) {call : Call} {step : StepId}
    (hk : (c.extend k call).execution.state = .suspended step) :
    (c.extend k call).told = k.told ++ call.outcome?.toList := by
  have hstate : ¬k.execution.Admits call → k.execution.state = .suspended step := by
    intro ha
    rw [← hk, Course.execution, Course.execution, (extend_of_not_admits ha).1]
  have hagrees := h.agrees
  rcases stage with _ | _ | p | result
  · exact absurd rfl hs
  · exact hagrees.elim
  · cases call with
    | start =>
      have ha : ¬k.execution.Admits .start := by
        rw [Execution.Admits, hagrees.1]
        exact FlowState.noConfusion
      rw [(extend_of_not_admits ha).2]
      exact (List.append_nil _).symm
    | resume outcome =>
      have ha : isRefused (c.perform (.resume outcome) k.situation).1 = false :=
        not_refused_of_admits ⟨p.step, hagrees.1⟩
      rw [told_extend, ha]
      rfl
  · -- An attempt that is over is not suspended by a call.
    have ha := Execution.not_admits_of_over hagrees call
    exact absurd ⟨step, hstate ha⟩ (Execution.not_admits_of_over hagrees (.resume .success))

theorem Follows.told_of_suspended {first : Moment σ} {k : Course σ} {stage : Stage}
    (h : c.Follows first k stage) (hs : stage ≠ .ready) {calls : List Call} {step : StepId}
    (hk : (calls.foldl c.extend k).execution.state = .suspended step) :
    (calls.foldl c.extend k).told = k.told ++ resumes calls := by
  induction calls generalizing k stage with
  | nil => exact (List.append_nil _).symm
  | cons call calls ih =>
    obtain ⟨stage', h', hready⟩ := h.extend call
    have hs' : stage' ≠ .ready := fun hr => hs (hready.1 hr).1
    obtain ⟨step', hstep⟩ : ∃ step', (c.extend k call).execution.state = .suspended step' := by
      have hagrees := h'.agrees
      rcases stage' with _ | _ | p | result
      · exact absurd rfl hs'
      · exact hagrees.elim
      · exact ⟨_, hagrees.1⟩
      · -- Otherwise no later call would have suspended the attempt.
        have hlast := foldl_of_over (c := c) hagrees calls
        rw [List.foldl_cons, Course.execution, hlast] at hk
        exact absurd ⟨step, hk⟩ (Execution.not_admits_of_over hagrees (.resume .success))
    have hresumes : resumes (call :: calls) = call.outcome?.toList ++ resumes calls := by
      cases call <;> rfl
    rw [List.foldl_cons, ih h' hs' hk, h.told_extend_of_waiting hs hstep, hresumes,
      List.append_assoc]

end Controller

end LoginGate
