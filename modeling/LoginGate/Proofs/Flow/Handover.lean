import LoginGate.Proofs.Flow.Likeness
import LoginGate.Proofs.Flow.Report

/-!
# Who writes attributes

The attributes of an attempt pass from the controller to the executor and back
with every step. An executor may be watched that writes down what it finds and
what it leaves; what happens between two visits of it, before the first one and
after the last one, is then the doing of the controller.

The controller hands attributes on as it got them (`HandedOn`), except at the
gate: there it writes the entries of the gate over those that a step has left,
once in an attempt (`writesAtGateOnly`).
-/

namespace LoginGate

/-- A visit to the executor, for a step. -/
structure Visit where
  /-- The step. -/
  step : StepId
  /-- The attributes that the executor found. -/
  found : Attributes
  /-- The attributes that the executor left. -/
  left : Attributes

/-- Nobody writes attributes between the visits: each finds what the one before it
    has left. -/
def HandedOn (first : Attributes) : List Visit → Attributes → Prop
  | [], last => last = first
  | v :: later, last => v.found = first ∧ HandedOn v.left later last

theorem handedOn_concat {first last : Attributes} {visits : List Visit} {v : Visit} :
    HandedOn first (visits ++ [v]) last ↔ HandedOn first visits v.found ∧ last = v.left := by
  induction visits generalizing first with
  | nil => exact Iff.rfl
  | cons u visits ih =>
    rw [List.cons_append, HandedOn, HandedOn, ih, and_assoc]

/-- The entries of the gate were written over attributes, and all others kept. -/
def SessionLimitGate.Overwrites (gate : SessionLimitGate) (before written : Attributes) : Prop :=
  ∀ key, written.get? key = (gate.attributes.get? key).or (before.get? key)

/-- One of the visits was for a step that reported an outcome which the gate
    follows. The gate was written over what this visit left, and all else was
    handed on. -/
def WrittenAtGate (d : FlowDefinition) (reports : List (StepId × Outcome)) (first : Attributes)
    (visits : List Visit) (last : Attributes) : Prop :=
  ∃ earlier v later outcome gate written, visits = earlier ++ v :: later ∧
    reports[earlier.length]? = some (v.step, outcome) ∧
    d.continuation? v.step outcome = some (.sessionLimitGate gate) ∧
    HandedOn first (earlier ++ [v]) v.left ∧ gate.Overwrites v.left written ∧
    HandedOn written later last

variable {σ : Type}

/-- The registry next to something that it has nothing to do with. -/
def Registry.beside {ω : Type} (r : Registry σ) : Registry (σ × ω) where
  count principal s := ((r.count principal s.1).1, ((r.count principal s.1).2, s.2))
  list principal s := ((r.list principal s.1).1, ((r.list principal s.1).2, s.2))
  ping s := ((r.ping s.1).1, ((r.ping s.1).2, s.2))

/-- An evaluation leaves what is next to the registry as it is. -/
theorem Registry.state_of_beside {ω : Type} (r : Registry σ) (principal : Principal)
    (attributes : Attributes) (s : σ × ω) :
    (r.beside.evaluate principal attributes s).state.2 = s.2 := by
  rw [evaluate, evaluateSetting]
  split
  · rw [evaluateLimit_eq]
    rfl
  · rfl

namespace Controller

/-- The controller with an executor that writes down its visits. -/
def watching (c : Controller σ) : Controller (σ × List Visit) where
  definition := c.definition
  executor := ⟨fun step attempt s =>
    let reply := c.executor.execute step attempt s.1
    ⟨reply.result, reply.attributes,
      (reply.state, s.2 ++ [⟨step, attempt.attributes, reply.attributes⟩])⟩⟩
  registry := c.registry.beside

/-- The visits to the executor in a course. -/
def visits (c : Controller σ) (calls : List Call) (attempt : Attempt) (state : σ) : List Visit :=
  (c.watching.course calls attempt (state, [])).situation.state.2

theorem mirrors_watching (c : Controller σ) : c.watching.Mirrors c Prod.fst where
  definition := rfl
  execute _ _ _ := rfl
  count _ _ := rfl

end Controller

/-- What became of the attributes, in a situation that began with `first`. -/
structure Handled (d : FlowDefinition) (first : Attributes) (s : Situation (σ × List Visit)) :
    Prop where
  /-- The executor was visited for the executed steps. -/
  steps : s.state.2.map Visit.step = s.attempt.execution.executed
  /-- Before the gate, attributes are handed on. -/
  before : s.attempt.execution.evaluated = false → HandedOn first s.state.2 s.attempt.attributes
  /-- After it, they were written once. -/
  after : s.attempt.execution.evaluated = true →
    WrittenAtGate d s.reports first s.state.2 s.attempt.attributes

namespace Handled

variable {d : FlowDefinition} {first : Attributes} {s s' : Situation (σ × List Visit)}

/-- What has nothing to do with attributes and steps may have changed. -/
theorem of_eq (h : Handled d first s) (hstate : s'.state = s.state)
    (hattributes : s'.attempt.attributes = s.attempt.attributes)
    (hexecuted : s'.attempt.execution.executed = s.attempt.execution.executed)
    (hevaluated : s'.attempt.execution.evaluated = s.attempt.execution.evaluated)
    (hreports : s.reports <+: s'.reports) : Handled d first s' := by
  refine ⟨?_, fun he => ?_, fun he => ?_⟩
  · rw [hstate, hexecuted]
    exact h.steps
  · rw [hstate, hattributes]
    exact h.before (hevaluated.symm.trans he)
  · rw [hstate, hattributes]
    obtain ⟨earlier, v, later, outcome, gate, written, hv, hr, hrest⟩ :=
      h.after (hevaluated.symm.trans he)
    obtain ⟨more, hmore⟩ := hreports
    refine ⟨earlier, v, later, outcome, gate, written, hv, ?_, hrest⟩
    rw [← hmore, List.getElem?_append_left (List.getElem?_eq_some_iff.1 hr).1]
    exact hr

end Handled

namespace Controller

variable {c : Controller σ} {first : Attributes} {told : Option Outcome}

theorem handled_of_executes {s s' : Situation (σ × List Visit)} {p : Pending}
    {r : Except StepError StepStatus} (h : c.watching.Executes s p r s')
    (hs : Handled c.definition first s) : Handled c.definition first s' := by
  have hreports : s'.reports = s.reports := h.reports_eq
  cases h with
  | @mk rest hp hlen =>
    refine ⟨?_, fun he => ?_, fun he => ?_⟩
    · exact List.map_append.trans (congrArg (· ++ [p.step]) hs.steps)
    · exact handedOn_concat.2 ⟨hs.before he, rfl⟩
    · obtain ⟨earlier, v, later, outcome, gate, written, hv, hr, hk, hb, hw, ha⟩ := hs.after he
      let visit : Visit :=
        ⟨p.step, s.attempt.attributes, (c.watching.reply s p rest).attributes⟩
      refine ⟨earlier, v, later ++ [visit], outcome, gate, written, ?_, hreports ▸ hr, hk, hb, hw,
        handedOn_concat.2 ⟨ha, rfl⟩⟩
      rw [← List.cons_append, ← List.append_assoc, ← hv]
      rfl

/-- At the gate, the last visit was for the step that reports. -/
theorem written_of_gate {s : Situation (σ × List Visit)} {p : Pending} {outcome : Outcome}
    {gate : SessionLimitGate} (hs : Handled c.definition first s)
    (hr : s.reports.map Prod.fst ++ [p.step] = s.attempt.execution.executed)
    (hk : c.definition.continuation? p.step outcome = some (.sessionLimitGate gate))
    (he : s.attempt.execution.evaluated = false) :
    WrittenAtGate c.definition (s.reports ++ [(p.step, outcome)]) first s.state.2
      (s.attempt.attributes.insertAll gate.attributes.entries) := by
  have hsteps : s.state.2.map Visit.step = s.reports.map Prod.fst ++ [p.step] :=
    hs.steps.trans hr.symm
  obtain ⟨earlier, visit, hv, hearlier, hstep⟩ := List.map_eq_append_iff.1 hsteps
  obtain ⟨v, rfl, hp⟩ := List.map_eq_singleton_iff.1 hstep
  have hlen : earlier.length = s.reports.length := by
    simpa using congrArg List.length hearlier
  have hhanded := hs.before he
  rw [hv] at hhanded
  have hleft : s.attempt.attributes = v.left := (handedOn_concat.1 hhanded).2
  refine ⟨earlier, v, [], outcome, gate, _, hv, ?_, hp ▸ hk, hleft ▸ hhanded, fun key => ?_, rfl⟩
  · rw [hlen, List.getElem?_concat_length, hp]
  · rw [hleft]
    exact Dictionary.get?_insertAll gate.attributes.distinct v.left key

theorem handled_of_ensues {s : Situation (σ × List Visit)} {p : Pending} {outcome : Outcome}
    {m : Moment (σ × List Visit)} (h : c.watching.Ensues p outcome s m)
    (hs : Handled c.definition first s)
    (hr : s.reports.map Prod.fst ++ [p.step] = s.attempt.execution.executed) :
    Handled c.definition first m.situation := by
  have hreports := h.reports_eq
  have hprefix : s.reports <+: m.situation.reports := h.view_prefix
  cases h with
  | next | last | rest | execute | again | route => exact hs.of_eq rfl rfl rfl rfl hprefix
  | @pass gate _ hk he | @refuse gate _ hk he =>
    -- The registry knows nothing of the visits.
    have hvisits : (c.watching.evaluationAt gate (s.report p.step outcome)).state.2 = s.state.2 :=
      c.registry.state_of_beside _ _ _
    refine ⟨?_, nofun, fun _ => ?_⟩
    · exact (congrArg (List.map Visit.step) hvisits).trans hs.steps
    · rw [hreports]
      exact hvisits ▸ written_of_gate hs hr hk he

theorem handled_of_turn {m m' : Moment (σ × List Visit)} (h : c.watching.Turn told m m')
    (hrecounted : m.Recounted) (hm : Handled c.definition first m.situation) :
    Handled c.definition first m'.situation := by
  have hprefix : m.situation.reports <+: m'.situation.reports := view_of_turn h
  cases h with
  | start | exceed | conclude => exact hm.of_eq rfl rfl rfl rfl hprefix
  | follow hr he =>
    refine handled_of_ensues he ?_ (hr.recount hrecounted).1
    cases hr with
    | completed hx => exact handled_of_executes hx hm
    | resumed => exact hm.of_eq rfl rfl rfl rfl List.prefix_rfl
  | suspend hx =>
    exact (handled_of_executes hx hm).of_eq rfl rfl rfl rfl (by simp [Situation.reports])
  | crash hx =>
    exact (handled_of_executes hx hm).of_eq rfl rfl rfl rfl (by simp [Situation.reports])

/-- In a course, the controller writes no attributes unless the gate is visited, and
    there it writes the entries of the gate, once. -/
def WritesAtGateOnly (c : Controller σ) (calls : List Call) (principal : Principal)
    (attributes : Attributes) (state : σ) : Prop :=
  let k := c.course calls (.new principal attributes) state
  let visits := c.visits calls (.new principal attributes) state
  visits.map Visit.step = k.execution.executed ∧
    (k.execution.evaluated = false → HandedOn attributes visits k.situation.attempt.attributes) ∧
    (k.execution.evaluated = true → WrittenAtGate c.definition k.situation.reports attributes
      visits k.situation.attempt.attributes)

theorem writesAtGateOnly (c : Controller σ) (calls : List Call) (principal : Principal)
    (attributes : Attributes) (state : σ) :
    c.WritesAtGateOnly calls principal attributes state := by
  obtain ⟨stage, hf, -⟩ := c.watching.course_turns calls principal attributes (state, [])
  have hk : c.course calls (.new principal attributes) state =
      (c.watching.course calls (.new principal attributes) (state, [])).map Prod.fst :=
    c.mirrors_watching.course calls (.new principal attributes) (state, [])
  have hh := hf.turns.keeps
    (P := fun m => m.Recounted ∧ Handled c.definition attributes m.situation)
    (fun _ _ _ ht hm => ⟨recount_of_turn ht hm.1, handled_of_turn ht hm.1 hm.2⟩)
    ⟨⟨rfl, rfl, rfl, nofun, nofun⟩, ⟨rfl, fun _ => rfl, nofun⟩⟩
  rw [WritesAtGateOnly, hk]
  exact ⟨hh.2.steps, hh.2.before, hh.2.after⟩

end Controller

end LoginGate
