import LoginGate.Proofs.Flow.Queue

/-!
# What the steps reported

The reports of an attempt are the outcomes of its steps, each with the step that
it is of. They recount the execution: every executed step has reported once, in
order, except the last one if it has not come to an outcome
(`recount_of_turn`). So the outcome that the execution has kept is that of the
step executed last, and an attempt that ends without an error has executed one.
-/

namespace LoginGate

/-- The step that reported an outcome, and the outcome, if the event is about one. -/
def FlowEvent.report? : FlowEvent → Option (StepId × Outcome)
  | .reported step outcome => some (step, outcome)
  | _ => none

/-- The steps that reported an outcome, each with it, in order. -/
def Situation.reports {σ : Type} (s : Situation σ) : List (StepId × Outcome) :=
  s.view FlowEvent.report?

/-- The step that was executed without coming to an outcome, if there is one. -/
def Stage.unreported : Stage → List StepId
  | .waiting p => [p.step]
  | .over (.error (.step step _)) => [step]
  | _ => []

/-- What that step came to, if it could not be executed. -/
def Stage.mishap : Stage → List (Except StepError Outcome)
  | .over (.error (.step _ cause)) => [.error cause]
  | _ => []

/-- The reports recount the execution. -/
structure Moment.Recounted {σ : Type} (m : Moment σ) : Prop where
  /-- The executed steps are those that reported, and the one that did not. -/
  executed : m.situation.reports.map Prod.fst ++ m.stage.unreported = m.execution.executed
  /-- The answers are the outcomes reported, and the error of a step. -/
  answers : m.situation.answers =
    m.situation.reports.map (fun report => .ok report.2) ++ m.stage.mishap
  /-- The outcome that was kept is that of the last report. -/
  lastOutcome : m.execution.lastOutcome = m.situation.reports.getLast?.map Prod.snd
  /-- Where nothing was executed yet, a step waits. -/
  due : m.stage = .going → m.execution.executed = [] → m.execution.pending ≠ []
  /-- An attempt without an error ends with the steps that reported and the last outcome. -/
  report : ∀ report, m.stage = .over (.ok report) → report.executed = m.execution.executed ∧
    ∃ step, m.situation.reports.getLast? = some (step, report.lastOutcome)

/-- Where a step is due and none waits, some step has reported. -/
theorem Moment.Recounted.exists_last {σ : Type} {s : Situation σ}
    (h : (⟨.going, s⟩ : Moment σ).Recounted) (hp : s.attempt.execution.pending = []) :
    ∃ step outcome, s.reports.getLast? = some (step, outcome) ∧
      s.attempt.execution.lastOutcome = some outcome := by
  have hx : s.reports.map Prod.fst ++ [] = s.attempt.execution.executed := h.executed
  have hl : s.attempt.execution.lastOutcome = s.reports.getLast?.map Prod.snd := h.lastOutcome
  have hne : s.reports ≠ [] := by
    intro hnil
    rw [hnil] at hx
    exact h.due rfl hx.symm hp
  obtain ⟨⟨step, outcome⟩, hlast⟩ := Option.ne_none_iff_exists'.1
    (mt List.getLast?_eq_none_iff.1 hne)
  exact ⟨step, outcome, hlast, by rw [hl, hlast]; rfl⟩

/-- What the reports say about an attempt that ended without an error. -/
theorem Moment.Recounted.complete {σ : Type} {s : Situation σ} {report : FlowReport}
    (h : (⟨.over (.ok report), s⟩ : Moment σ).Recounted) :
    s.reports.map Prod.fst = s.attempt.execution.executed ∧
      s.answers = s.reports.map (fun r => .ok r.2) ∧
      report.executed = s.reports.map Prod.fst ∧
      ∃ step, s.reports.getLast? = some (step, report.lastOutcome) := by
  have hx : s.reports.map Prod.fst ++ [] = s.attempt.execution.executed := h.executed
  have ha : s.answers = s.reports.map (fun r => .ok r.2) ++ [] := h.answers
  rw [List.append_nil] at hx ha
  obtain ⟨hreport, hlast⟩ := h.report report rfl
  exact ⟨hx, ha, hreport.trans hx.symm, hlast⟩

namespace Controller

variable {σ : Type} {c : Controller σ} {told : Option Outcome}

theorem Executes.reports_eq {s s' : Situation σ} {p : Pending} {r : Except StepError StepStatus}
    (h : c.Executes s p r s') : s'.reports = s.reports := h.view_eq fun _ => rfl

theorem Executes.answers_eq {s s' : Situation σ} {p : Pending} {r : Except StepError StepStatus}
    (h : c.Executes s p r s') : s'.answers = s.answers := h.view_eq fun _ => rfl

theorem Executes.lastOutcome_eq {s s' : Situation σ} {p : Pending}
    {r : Except StepError StepStatus} (h : c.Executes s p r s') :
    s'.attempt.execution.lastOutcome = s.attempt.execution.lastOutcome := by
  cases h with
  | mk => rfl

/-- When a step was executed, it is the only one that has not reported. -/
theorem Executes.recount {s s' : Situation σ} {p : Pending} {r : Except StepError StepStatus}
    (h : c.Executes s p r s') (hs : (⟨.going, s⟩ : Moment σ).Recounted) :
    s'.reports.map Prod.fst ++ [p.step] = s'.attempt.execution.executed ∧
      s'.answers = s'.reports.map (fun report => .ok report.2) ∧
      s'.attempt.execution.lastOutcome = s'.reports.getLast?.map Prod.snd := by
  have hx : s.reports.map Prod.fst ++ [] = s.attempt.execution.executed := hs.executed
  have ha : s.answers = s.reports.map (fun report => .ok report.2) ++ [] := hs.answers
  rw [List.append_nil] at hx ha
  rw [h.reports_eq, h.executed_eq, h.lastOutcome_eq, h.answers_eq, hx]
  exact ⟨rfl, ha, hs.lastOutcome⟩

theorem Reports.recount {m : Moment σ} {p : Pending} {outcome : Outcome} {s : Situation σ}
    (h : c.Reports told m p outcome s) (hm : m.Recounted) :
    s.reports.map Prod.fst ++ [p.step] = s.attempt.execution.executed ∧
      s.answers = s.reports.map (fun report => .ok report.2) := by
  cases h with
  | completed hx =>
    obtain ⟨hx, ha, -⟩ := hx.recount hm
    exact ⟨hx, ha⟩
  | resumed => exact ⟨hm.executed, hm.answers.trans (List.append_nil _)⟩

/-- The step that reports is the one executed last. -/
theorem Reports.getLast?_executed {m : Moment σ} {p : Pending} {outcome : Outcome}
    {s : Situation σ} (h : c.Reports told m p outcome s) (hm : m.Recounted) :
    s.attempt.execution.executed.getLast? = some p.step := by
  rw [← (h.recount hm).1, List.getLast?_concat]

theorem Ensues.reports_eq {p : Pending} {outcome : Outcome} {s : Situation σ} {m : Moment σ}
    (h : c.Ensues p outcome s m) : m.situation.reports = s.reports ++ [(p.step, outcome)] := by
  cases h <;> simp [Situation.reports, FlowEvent.report?]

theorem Ensues.lastOutcome_eq {p : Pending} {outcome : Outcome} {s : Situation σ} {m : Moment σ}
    (h : c.Ensues p outcome s m) : m.execution.lastOutcome = some outcome := by
  cases h <;> rfl

theorem Ensues.unreported_eq {p : Pending} {outcome : Outcome} {s : Situation σ} {m : Moment σ}
    (h : c.Ensues p outcome s m) : m.stage.unreported = [] ∧ m.stage.mishap = [] := by
  cases h <;> exact ⟨rfl, rfl⟩

/-- No attempt ends without an error while an outcome is followed. -/
theorem Ensues.ne_report {p : Pending} {outcome : Outcome} {s : Situation σ} {m : Moment σ}
    (h : c.Ensues p outcome s m) (report : FlowReport) : m.stage ≠ .over (.ok report) := by
  cases h <;> nofun

theorem recount_of_ensues {p : Pending} {outcome : Outcome} {s : Situation σ} {m : Moment σ}
    (h : c.Ensues p outcome s m)
    (hs : s.reports.map Prod.fst ++ [p.step] = s.attempt.execution.executed)
    (ha : s.answers = s.reports.map (fun report => .ok report.2)) : m.Recounted where
  executed := by
    rw [h.reports_eq, h.unreported_eq.1, List.map_append, List.append_nil, Moment.execution,
      h.executed_eq]
    exact hs
  answers := by
    rw [h.answers_eq, h.reports_eq, h.unreported_eq.2, List.map_append, List.append_nil, ha]
    rfl
  lastOutcome := by
    rw [h.reports_eq, h.lastOutcome_eq, List.getLast?_concat]
    rfl
  due _ hx := by
    -- The step that reported was executed.
    rw [Moment.execution, h.executed_eq, ← hs] at hx
    exact absurd hx (by simp)
  report report hr := absurd hr (h.ne_report report)

theorem recount_of_turn {m m' : Moment σ} (h : c.Turn told m m') (hm : m.Recounted) :
    m'.Recounted := by
  cases h with
  | start =>
    refine ⟨hm.executed, hm.answers, hm.lastOutcome, fun _ _ => ?_, nofun⟩
    exact List.append_ne_nil_of_right_ne_nil _ (List.cons_ne_nil _ _)
  | follow hr he =>
    obtain ⟨hx, ha⟩ := hr.recount hm
    exact recount_of_ensues he hx ha
  | @suspend s s' p hx =>
    have hv : (s'.suspend p).reports = s'.reports := Situation.view_suspend_of_none rfl
    have hva : (s'.suspend p).answers = s'.answers := Situation.view_suspend_of_none rfl
    obtain ⟨hx, ha, hl⟩ := hx.recount hm
    refine ⟨hv.symm ▸ hx, ?_, hv.symm ▸ hl, nofun, nofun⟩
    exact (hva.trans (hv.symm ▸ ha)).trans (List.append_nil _).symm
  | @crash s s' p cause hx =>
    have hv : (s'.fail (.step p.step cause)).reports = s'.reports := Situation.view_fail_of_none rfl
    have hva : (s'.fail (.step p.step cause)).answers = s'.answers ++ [.error cause] :=
      Situation.view_fail _
    obtain ⟨hx, ha, hl⟩ := hx.recount hm
    refine ⟨hv.symm ▸ hx, ?_, hv.symm ▸ hl, nofun, nofun⟩
    -- The error is the one answer that no report tells.
    show (s'.fail (.step p.step cause)).answers = _ ++ [.error cause]
    rw [hva, hv, ha]
  | @exceed s p =>
    have hv : (s.fail (.stepLimitExceeded p.step)).reports = s.reports :=
      Situation.view_fail_of_none rfl
    have hva : (s.fail (.stepLimitExceeded p.step)).answers = s.answers :=
      Situation.view_fail_of_none rfl
    exact ⟨hv.symm ▸ hm.executed, hva.trans (hv.symm ▸ hm.answers), hv.symm ▸ hm.lastOutcome,
      nofun, nofun⟩
  | @conclude s hp =>
    refine ⟨hm.executed, hm.answers, hm.lastOutcome, nofun, fun report hr => ?_⟩
    obtain rfl : ⟨s.attempt.execution.executed,
      s.attempt.execution.lastOutcome.getD .failure⟩ = report := by simpa using hr
    refine ⟨rfl, ?_⟩
    obtain ⟨step, outcome, hlast, hl⟩ := hm.exists_last hp
    refine ⟨step, ?_⟩
    show s.reports.getLast? = some (step, s.attempt.execution.lastOutcome.getD .failure)
    rw [hlast, hl]
    rfl

/-- So the reports recount the execution at any moment of an attempt. -/
theorem recount_of_turns {outcomes : List Outcome} {principal : Principal}
    {attributes : Attributes} {state : σ} {m : Moment σ}
    (h : c.Turns outcomes (outset principal attributes state) m) : m.Recounted :=
  h.keeps (fun _ _ _ => recount_of_turn) ⟨rfl, rfl, rfl, nofun, nofun⟩

end Controller

end LoginGate
