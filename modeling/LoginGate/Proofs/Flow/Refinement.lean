import LoginGate.Proofs.Flow.Interpretation
import LoginGate.Proofs.Flow.Recording

/-!
# Courses follow the interpretation

A course comes to what the interpretation of the flow says, given the answers
that were made in it. Every moment of an attempt has an *ending*, which is how
the interpretation would go on from there: with the next waiting step, or with
the outcome of the step that the attempt waits for. No turn changes the ending
(`ending_of_turn`), provided that it is told by all the answers that are made
until then. So the ending before the start, which is the interpretation of the
flow, is the ending of any course.
-/

namespace LoginGate

namespace FlowDefinition

/-! ### The order of declarations -/

/-- The ids after the first occurrence of an id. -/
def restAfter (id : StepId) : List StepId → List StepId
  | [] => []
  | x :: rest => if x = id then rest else restAfter id rest

theorem head?_restAfter (id : StepId) (ids : List StepId) :
    (restAfter id ids).head? = nextAfter id ids := by
  induction ids with
  | nil => rfl
  | cons x rest ih =>
    rw [restAfter, nextAfter]
    split
    · rfl
    · exact ih

theorem mem_of_mem_restAfter {id x : StepId} {ids : List StepId} (h : x ∈ restAfter id ids) :
    x ∈ ids := by
  induction ids with
  | nil => exact h
  | cons y rest ih =>
    rw [restAfter] at h
    split at h
    · exact List.mem_cons_of_mem _ h
    · exact List.mem_cons_of_mem _ (ih h)

/-- What comes after the next of distinct ids are the others of the rest. -/
theorem restAfter_of_cons {id next : StepId} {ids later : List StepId} (hn : ids.Nodup)
    (h : restAfter id ids = next :: later) : restAfter next ids = later := by
  induction ids with
  | nil => cases h
  | cons x rest ih =>
    obtain ⟨hx, hn⟩ := List.nodup_cons.1 hn
    rw [restAfter] at h
    have hnext : next ∈ rest := by
      split at h
      · rw [h]
        exact List.mem_cons_self
      · exact mem_of_mem_restAfter (h ▸ List.mem_cons_self)
    -- As the ids are distinct, the search for `next` goes beyond `x`.
    have hxn : x ≠ next := fun he => hx (he ▸ hnext)
    rw [restAfter, if_neg hxn]
    split at h
    · rw [h, restAfter, if_pos rfl]
    · exact ih hn h

variable (d : FlowDefinition) (a : Answers)

/-- The steps declared after a step. -/
def declaredAfter (id : StepId) : List StepId := restAfter id (d.steps.map StepDescriptor.id)

theorem declaredAfter_of_next {id next : StepId} (h : d.nextDeclared? id = some next) :
    d.declaredAfter id = next :: d.declaredAfter next := by
  have hh : (d.declaredAfter id).head? = some next := (head?_restAfter _ _).trans h
  obtain ⟨later, hl⟩ := List.head?_eq_some_iff.1 hh
  rw [hl, declaredAfter, restAfter_of_cons d.distinct hl]

theorem declaredAfter_of_last {id : StepId} (h : d.nextDeclared? id = none) :
    d.declaredAfter id = [] :=
  List.head?_eq_none_iff.1 ((head?_restAfter _ _).trans h)

theorem declared_eq : d.steps.map StepDescriptor.id = d.entry :: d.declaredAfter d.entry := by
  obtain ⟨first, rest, hs⟩ := List.exists_cons_of_ne_nil d.nonempty
  have he : d.entry = first.id := by simp [entry, hs]
  rw [declaredAfter, hs, List.map_cons, he, restAfter, if_pos rfl]

/-! ### Interpretation from a moment on -/

/-- Goes on after the step `p`, of which it is known what it leads to, with the
    steps that are left. -/
def goOn (p : Pending) (left : List StepId) :
    Except Ending (Option (List StepId) × Passage) → Ending
  | .error e => e
  | .ok (some next, q) => d.finish a (next ++ left) q
  | .ok (none, q) =>
    match p.origin with
    | .declared => d.walk a (d.declaredAfter p.step) q
    | .scheduled => d.finish a left q

theorem goOn_declared {p : Pending} (h : p.origin = .declared) (left : List StepId)
    (q : Passage) : d.goOn a p left (.ok (none, q)) = d.walk a (d.declaredAfter p.step) q := by
  rw [goOn, h]

theorem goOn_scheduled {p : Pending} (h : p.origin = .scheduled) (left : List StepId)
    (q : Passage) : d.goOn a p left (.ok (none, q)) = d.finish a left q := by
  rw [goOn, h]

/-- Goes on with the first of the waiting steps. -/
def goThrough : List Pending → Passage → Ending
  | [], q => q.conclude
  | p :: rest, q => d.goOn a p (rest.map Pending.step) (d.visit a p.step q)

theorem goThrough_scheduled {l : List Pending} (h : ∀ p ∈ l, p.origin = .scheduled)
    (q : Passage) : d.goThrough a l q = d.finish a (l.map Pending.step) q := by
  cases l with
  | nil => rfl
  | cons p rest =>
    rw [goThrough, List.map_cons, finish_cons]
    rcases d.visit a p.step q with e | ⟨_ | next, q'⟩
    · rfl
    · rw [goOn, h p List.mem_cons_self]
      rfl
    · rfl

theorem goThrough_declared (step : StepId) (q : Passage) :
    d.goThrough a [⟨step, .declared⟩] q = d.walk a (step :: d.declaredAfter step) q := by
  rw [goThrough, walk]
  rcases d.visit a step q with e | ⟨_ | next, q'⟩
  · rfl
  · rfl
  · rw [goOn, List.map_nil, List.append_nil]

end FlowDefinition

/-- How far the attempt of a situation came. -/
def Situation.passage {σ : Type} (s : Situation σ) : Passage :=
  ⟨s.attempt.execution.executed, s.attempt.execution.lastOutcome, s.attempt.execution.evaluated⟩

/-- The answers tell what happened in a situation. -/
structure Answers.Cover {σ : Type} (a : Answers) (s : Situation σ) : Prop where
  /-- The steps came to what the answers say. -/
  steps : s.answers <+: a.steps
  /-- So did the evaluation of the limit. -/
  verdict : ∀ v ∈ s.verdicts.head?, a.verdict = some v

theorem Answers.Cover.verdict_eq {σ : Type} {a : Answers} {s : Situation σ} (h : a.Cover s)
    {v : Except PolicyError Bool} (hs : s.verdicts = [v]) : a.verdict = some v :=
  h.verdict v (by rw [hs]; rfl)

/-- How the interpretation of a flow goes on from a moment. -/
def Moment.ending {σ : Type} (d : FlowDefinition) (a : Answers) (m : Moment σ) : Ending :=
  match m.stage with
  | .ready => d.walk a (d.steps.map StepDescriptor.id) m.situation.passage
  | .going => d.goThrough a m.execution.pending m.situation.passage
  | .waiting p =>
    d.goOn a p (m.execution.pending.map Pending.step) (d.respond a p.step m.situation.passage)
  | .over result => ⟨m.situation.passage, result.map .complete⟩

namespace Controller

variable {σ : Type} {c : Controller σ} {a : Answers} {told : Option Outcome}

/-! ### Turns keep the ending -/

theorem cover_of_turn {m m' : Moment σ} (h : c.Turn told m m') (ha : a.Cover m'.situation) :
    a.Cover m.situation := by
  refine ⟨(view_of_turn h).trans ha.steps, fun v hv => ha.verdict v ?_⟩
  obtain ⟨more, hm⟩ : m.situation.verdicts <+: m'.situation.verdicts := view_of_turn h
  rw [← hm, List.head?_append, Option.mem_def.1 hv]
  rfl

theorem cover_of_turns {os : List Outcome} {m m' : Moment σ} (h : c.Turns os m m')
    (ha : a.Cover m'.situation) : a.Cover m.situation := by
  induction h with
  | refl => exact ha
  | head ht _ ih => exact cover_of_turn ht (ih ha)

/-- What the execution of the first waiting step changes. -/
theorem Executes.eqs {s s' : Situation σ} {p : Pending} {r : Except StepError StepStatus}
    (h : c.Executes s p r s') :
    s.attempt.execution.pending = p :: s'.attempt.execution.pending ∧
      s'.passage = { s.passage with executed := s.passage.executed ++ [p.step] } ∧
      ¬maxSteps ≤ s.passage.executed.length := by
  cases h with
  | mk hp hlen => exact ⟨hp, rfl, Nat.not_le.2 hlen⟩

/-- When a step was executed, the ending is what its answer leads to. -/
theorem ending_of_executes {s s' : Situation σ} {p : Pending} {r : Except StepError StepStatus}
    (h : c.Executes s p r s') :
    (⟨.going, s⟩ : Moment σ).ending c.definition a =
      c.definition.goOn a p (s'.attempt.execution.pending.map Pending.step)
        (c.definition.respond a p.step s'.passage) := by
  obtain ⟨hp, hs, hlen⟩ := h.eqs
  rw [Moment.ending]
  dsimp only [Moment.execution]
  rw [hp, FlowDefinition.goThrough, FlowDefinition.visit, if_neg hlen, hs]

/-- Where the first items of a list are known, so is the last of them. -/
theorem last_of_prefix {α : Type} {l m : List α} {x : α} {n : Nat} (h : l ++ [x] <+: m)
    (hn : n = l.length + 1) : m[n - 1]? = some x := by
  obtain ⟨more, rfl⟩ := h
  rw [hn, Nat.add_sub_cancel, List.append_assoc, List.getElem?_append_right (Nat.le_refl _),
    Nat.sub_self]
  rfl

/-- Where a step reports, the ending is what its outcome leads to. -/
theorem ending_of_reports {m : Moment σ} {p : Pending} {outcome : Outcome} {s : Situation σ}
    (h : c.Reports told m p outcome s) (hm : m.Accounted)
    (ha : s.answers ++ [.ok outcome] <+: a.steps) :
    m.ending c.definition a =
      c.definition.goOn a p (s.attempt.execution.pending.map Pending.step)
        (c.definition.continueWith a p.step outcome (s.report p.step outcome).passage) := by
  have hlast : a.steps[s.passage.executed.length - 1]? = some (.ok outcome) :=
    last_of_prefix ha (h.length_answers hm).symm
  have hr : c.definition.respond a p.step s.passage =
      c.definition.continueWith a p.step outcome (s.report p.step outcome).passage :=
    FlowDefinition.respond_ok hlast
  cases h with
  | completed hx => rw [ending_of_executes hx, hr]
  | @resumed s =>
    exact congrArg (c.definition.goOn a p (s.attempt.execution.pending.map Pending.step)) hr

/-- Steps that are scheduled are executed before those that are left. -/
theorem ending_of_schedule {p : Pending} {s : Situation σ} {steps : List StepId}
    (h : ∀ q ∈ s.attempt.execution.pending, q.origin = .scheduled) :
    (⟨.going, s.schedule steps⟩ : Moment σ).ending c.definition a =
      c.definition.goOn a p (s.attempt.execution.pending.map Pending.step)
        (.ok (some steps, s.passage)) := by
  refine (c.definition.goThrough_scheduled a (fun q hq => ?_) _).trans ?_
  · rcases List.mem_append.1 hq with hq | hq
    · obtain ⟨_, _, rfl⟩ := List.mem_map.1 hq
      rfl
    · exact h q hq
  · have hl : ((s.schedule steps).attempt.execution.pending.map Pending.step) =
        steps ++ s.attempt.execution.pending.map Pending.step := by
      have hq : (s.schedule steps).attempt.execution.pending =
        steps.map (Pending.mk · .scheduled) ++ s.attempt.execution.pending := rfl
      rw [hq, List.map_append, List.map_map]
      exact congrArg (· ++ _) (List.map_id steps)
    exact congrArg (c.definition.finish a · s.passage) hl

/-- What ensues from an outcome is what the interpretation makes of it. -/
theorem ending_of_ensues {p : Pending} {outcome : Outcome} {s : Situation σ} {m : Moment σ}
    (h : c.Ensues p outcome s m) (hb : Behind p s.attempt.execution.pending)
    (hv : s.attempt.execution.evaluated = false → s.verdicts = []) (ha : a.Cover m.situation) :
    m.ending c.definition a =
      c.definition.goOn a p (s.attempt.execution.pending.map Pending.step)
        (c.definition.continueWith a p.step outcome (s.report p.step outcome).passage) := by
  have hnone (he : s.attempt.execution.evaluated = false) : s.view FlowEvent.verdict? = [] := hv he
  cases h with
  | next hk hp _ hn =>
    rw [FlowDefinition.continueWith_none hk, c.definition.goOn_declared a hp,
      c.definition.declaredAfter_of_next hn, ← c.definition.goThrough_declared]
    rfl
  | last hk hp hs hn =>
    rw [FlowDefinition.continueWith_none hk, c.definition.goOn_declared a hp,
      c.definition.declaredAfter_of_last hn]
    show c.definition.goThrough a s.attempt.execution.pending _ = _
    rw [hs]
    rfl
  | rest hk hn =>
    -- A declared step is alone, so the one without a next is scheduled.
    have hp : p.origin = .scheduled := by
      cases ho : p.origin with
      | declared => exact absurd ⟨ho, hb.2 ho⟩ hn
      | scheduled => rfl
    rw [FlowDefinition.continueWith_none hk, c.definition.goOn_scheduled a hp,
      ← c.definition.goThrough_scheduled a hb.1]
    rfl
  | execute hk =>
    rw [FlowDefinition.continueWith_execute hk]
    exact ending_of_schedule hb.1
  | again hk he =>
    rw [FlowDefinition.continueWith_again hk he]
    rfl
  | @pass gate verdict hk he hr =>
    -- The verdict is the first one, so it is the one that the answers have.
    have hverdict : a.verdict = some (.ok verdict.isWithin) := by
      refine ha.verdict_eq ?_
      simp [Situation.verdicts, FlowEvent.verdict?, hnone he]
    rw [FlowDefinition.continueWith_gate hk he, hverdict]
    exact ending_of_schedule hb.1
  | @refuse gate cause hk he hr =>
    have hverdict : a.verdict = some (.error cause) := by
      refine ha.verdict_eq ?_
      simp [Situation.verdicts, FlowEvent.verdict?, hnone he]
    rw [FlowDefinition.continueWith_gate hk he, hverdict]
    rfl
  | route hk =>
    rw [FlowDefinition.continueWith_fail hk]
    rfl

/-- No turn changes the ending, as long as the answers tell what happened. -/
theorem ending_of_turn {m m' : Moment σ} (h : c.Turn told m m') (ho : m.HasOrder)
    (hm : m.Accounted) (ha : a.Cover m'.situation) :
    m'.ending c.definition a = m.ending c.definition a := by
  cases h with
  | @start s =>
    have hp : s.attempt.execution.pending = [] := ho
    show c.definition.goThrough a (s.attempt.execution.pending ++ _) s.passage =
      c.definition.walk a (c.definition.steps.map StepDescriptor.id) s.passage
    rw [hp, List.nil_append, c.definition.goThrough_declared, c.definition.declared_eq]
  | @follow _ _ _ p outcome s hr he =>
    rw [ending_of_ensues he (hr.behind ho) (hr.verdicts_eq_nil hm) ha,
      ending_of_reports hr hm (he.answers_eq ▸ ha.steps)]
  | suspend hx =>
    rw [ending_of_executes hx]
    rfl
  | @crash s s' p cause hx =>
    have hans : (s'.fail (.step p.step cause)).answers = s'.answers ++ [.error cause] :=
      Situation.view_fail _
    have hlast : a.steps[s'.passage.executed.length - 1]? = some (.error cause) :=
      last_of_prefix (hans ▸ ha.steps) (hx.length_answers hm).symm
    rw [ending_of_executes hx, FlowDefinition.respond_error hlast]
    rfl
  | @exceed s p rest hp hlen =>
    show _ = c.definition.goThrough a s.attempt.execution.pending s.passage
    have hv : c.definition.visit a p.step s.passage =
        .error ⟨s.passage, .error (.stepLimitExceeded p.step)⟩ := if_pos hlen
    rw [hp, FlowDefinition.goThrough, hv]
    rfl
  | @conclude s hp =>
    show _ = c.definition.goThrough a s.attempt.execution.pending s.passage
    rw [hp]
    rfl

theorem ending_of_turns {os : List Outcome} {m m' : Moment σ} (h : c.Turns os m m')
    (ho : m.HasOrder) (hm : m.Accounted) (ha : a.Cover m'.situation) :
    m'.ending c.definition a = m.ending c.definition a := by
  induction h with
  | refl => rfl
  | head ht hts ih =>
    -- The answers that cover the end cover every moment before it.
    rw [ih (order_of_turn ht ho) (account_of_turn ht hm) ha]
    exact ending_of_turn ht ho hm (cover_of_turns hts ha)

end Controller

/-! ### The ending of a course -/

/-- The answers that were made in a situation. -/
def Situation.told {σ : Type} (s : Situation σ) : Answers := ⟨s.answers, s.verdicts.head?⟩

theorem Situation.cover_told {σ : Type} (s : Situation σ) : s.told.Cover s :=
  ⟨List.prefix_rfl, fun _ hv => hv⟩

namespace Controller

variable {σ : Type} {c : Controller σ}

/-- An attempt that was started is where the interpretation of the flow ends,
    given the answers that were made so far. -/
theorem interpret_of_follows {principal : Principal} {attributes : Attributes} {state : σ}
    {k : Course σ} {stage : Stage} (h : c.Follows (outset principal attributes state) k stage)
    (hs : stage ≠ .ready) :
    ∃ r, k.result? = some r ∧
      c.definition.interpret k.situation.told = ⟨k.situation.passage, r⟩ := by
  have ho : (outset principal attributes state).HasOrder := rfl
  have hm : (outset principal attributes state).Accounted := ⟨rfl, fun _ => rfl⟩
  have he := ending_of_turns h.turns ho hm k.situation.cover_told
  have hi : (outset principal attributes state).ending c.definition k.situation.told =
      c.definition.interpret k.situation.told := rfl
  rw [hi] at he
  rw [← he, h.result]
  rcases stage with _ | _ | p | result
  · exact absurd rfl hs
  · exact h.agrees.elim
  · -- The answer that the attempt waits for is missing.
    refine ⟨_, rfl, ?_⟩
    have hacc := h.turns.keeps (fun _ _ _ => account_of_turn) hm
    have hnone : k.situation.answers[k.situation.passage.executed.length - 1]? = none := by
      have hlen : k.situation.answers.length + 1 = k.situation.passage.executed.length :=
        hacc.answers
      rw [List.getElem?_eq_none_iff]
      omega
    have hr : c.definition.respond k.situation.told p.step k.situation.passage =
        .error ⟨k.situation.passage, .ok (.suspended p.step)⟩ :=
      FlowDefinition.respond_missing hnone
    rw [Moment.ending]
    dsimp only
    rw [hr]
    rfl
  · exact ⟨_, rfl, rfl⟩

/-- An attempt that was started executes the steps that the interpretation of
    the flow executes, and ends as it ends, given what the steps came to by the
    replies of the executor and the outcomes of the calls. Any other attempt
    has no result and executes no step. -/
theorem course_eq_interpretation (c : Controller σ) (calls : List Call) (principal : Principal)
    (attributes : Attributes) (state : σ) :
    let k := c.course calls (.new principal attributes) state
    let t := c.transcript calls (.new principal attributes) state
    let i := c.definition.interpret
      ⟨comeTo (t.replies.map Prod.snd) k.told, k.situation.verdicts.head?⟩
    t.replies.map Prod.fst = k.execution.executed ∧
      if .start ∈ calls then
        k.result? = some i.result ∧ k.execution.executed = i.passage.executed ∧
          k.execution.lastOutcome = i.passage.lastOutcome
      else k.result? = none ∧ k.execution.executed = [] := by
  intro k t i
  obtain ⟨hexecuted, hanswers, -⟩ := c.transcript_of_course calls principal attributes state
  obtain ⟨stage, h, hready⟩ := c.course_turns calls principal attributes state
  refine ⟨hexecuted, ?_⟩
  split
  · next hs =>
    obtain ⟨r, hr, hi⟩ := interpret_of_follows h fun hst => hready.1 hst hs
    have hi : i = ⟨k.situation.passage, r⟩ := by
      rw [← hi]
      exact congrArg (fun steps => c.definition.interpret ⟨steps, _⟩) hanswers
    rw [hi]
    exact ⟨hr, rfl, rfl⟩
  · next hs =>
    obtain rfl := hready.2 hs
    have hk := h.turns.eq_of_ready
    have hsituation : k.situation = ⟨.new principal attributes, state, []⟩ :=
      (congrArg Moment.situation hk).symm
    refine ⟨h.result, ?_⟩
    rw [Course.execution, hsituation]
    rfl

end Controller

end LoginGate
