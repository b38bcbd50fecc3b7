import LoginGate.Api.Router
import LoginGate.Proofs.Api.Bodies
import LoginGate.Proofs.Api.Question
import LoginGate.Proofs.Flow.Determinacy
import LoginGate.Proofs.Flow.Verdict

/-!
# All ways to a decision

Whether a principal is within a limit can be asked in several ways: of the
evaluation itself, with an attempt or with attributes of its own; of the service,
by a question or by the request that carries one; and by a flow, at its gate.
Each of these *entry points* reads the limit and compares the count in its own
place, and tells the result in its own way (`Tells`): by a verdict, by the body of a
response, or by the steps that are to be executed. They all do the same
(`tells_call`): a setting that is no limit is refused without a look at
the registry, and for a limit the principal's sessions are counted once, and what is
told depends on the limit and the count alone.

What they do to a registry shows in one that writes down how it is called
(`Registry.logged`). When several of them are called one after another, each one
that has a limit gets a count of its own (`deals_consult`).
-/

namespace LoginGate

open Http Api

variable {σ : Type}

/-! ### Calls of a registry -/

/-- A call of a registry, and what a count came to. -/
inductive RegistryCall where
  /-- The sessions of a principal were counted. -/
  | count (principal : Principal) (answer : Except RegistryError Nat)
  /-- The sessions of a principal were listed. -/
  | list (principal : Principal)
  /-- The registry was probed. -/
  | ping

/-- The registry that also writes down how it is called. -/
def Registry.logged (r : Registry σ) : Registry (σ × List RegistryCall) where
  count principal s :=
    let reply := r.count principal s.1
    (reply.1, (reply.2, s.2 ++ [.count principal reply.1]))
  list principal s :=
    let reply := r.list principal s.1
    (reply.1, (reply.2, s.2 ++ [.list principal]))
  ping s :=
    let reply := r.ping s.1
    (reply.1, (reply.2, s.2 ++ [.ping]))

/-! ### Findings -/

/-- The limit with the count that a registry answered. -/
def SessionLimit.findings (limit : SessionLimit) :
    Except RegistryError Nat → Except PolicyError (SessionLimit × Nat)
  | .ok count => .ok (limit, count)
  | .error e => .error (.registry e)

/-- What is found for a principal and a setting. -/
def Registry.find (r : Registry σ) (principal : Principal) (setting : String) (s : σ) :
    Except PolicyError (SessionLimit × Nat) × σ :=
  match SessionLimit.parse (some setting) with
  | .error e => (.error (.invalidLimit e), s)
  | .ok limit => (limit.findings (r.count principal s).1, (r.count principal s).2)

/-- Whether the count leaves room for a session. -/
def isRoom (found : SessionLimit × Nat) : Bool := decide (found.2 < found.1.value)

theorem isWithin_ofCount (limit : SessionLimit) (count : Nat) :
    (Verdict.ofCount count limit).isWithin = isRoom (limit, count) := by
  by_cases h : count < limit.value <;> simp [Verdict.ofCount, Verdict.isWithin, isRoom, h]

namespace Registry

variable (r : Registry σ) (principal : Principal) (setting : String) (s : σ)

theorem result_evaluateSetting : (r.evaluateSetting principal (some setting) s).result =
    (r.find principal setting s).1.map fun found => .ofCount found.2 found.1 := by
  rw [evaluateSetting, find]
  cases SessionLimit.parse (some setting) with
  | error e => rfl
  | ok limit =>
    dsimp only
    rw [evaluateLimit_eq]
    cases (r.count principal s).1 <;> rfl

theorem state_evaluateSetting : (r.evaluateSetting principal (some setting) s).state =
    (r.find principal setting s).2 := by
  rw [evaluateSetting, find]
  cases SessionLimit.parse (some setting) with
  | error e => rfl
  | ok limit =>
    dsimp only
    rw [evaluateLimit_eq]

theorem isWithin_evaluateSetting : (r.evaluateSetting principal (some setting) s).isWithin =
    (r.find principal setting s).1.map isRoom := by
  rw [Evaluation.isWithin, result_evaluateSetting]
  rcases (r.find principal setting s).1 with e | ⟨limit, count⟩
  · rfl
  · exact congrArg Except.ok (isWithin_ofCount limit count)

end Registry

/-! ### Entry points -/

/-- A way to ask whether a principal is within a limit. -/
inductive EntryPoint (σ : Type) where
  /-- The limit is evaluated that is among the attributes of an attempt. -/
  | attempt (a : Attempt)
  /-- The principal of an attempt is compared with the limit among other attributes. -/
  | settings (a : Attempt) (attributes : Attributes)
  /-- The service is asked a question. -/
  | question (api : Api σ) (question : Question)
  /-- The service gets a request, and an id for one that does not bring its own. -/
  | request (api : Api σ) (freshId : String) (request : Request)
  /-- A step of an attempt reports an outcome that the gate of a flow follows. -/
  | gate (c : Controller σ) (gate : SessionLimitGate) (p : Pending) (outcome : Outcome)
    (a : Attempt) (events : List FlowEvent)

/-- What an entry point tells. -/
inductive Answer where
  | verdict (result : Except PolicyError Verdict)
  | within (result : Except PolicyError Bool)
  | response (response : Response)
  /-- Where the controller stands, and what is then to be executed. -/
  | moment (stage : Stage) (execution : Execution)

/-- The response conveys what was found for the principal. -/
inductive Conveys (principal : Principal) (response : Response) :
    Except PolicyError (SessionLimit × Nat) → Prop
  /-- Its body says whether the count leaves room within the limit. -/
  | decision {limit : SessionLimit} {count : Nat} : response.status.code = 200 →
    Decides response.body principal limit count → Conveys principal response (.ok (limit, count))
  /-- Its body says why the setting is no limit. -/
  | refusal {cause : LimitError} : response.status.code = 400 →
    response.body = (PolicyError.invalidLimit cause).message →
    Conveys principal response (.error (.invalidLimit cause))
  /-- There is no count. -/
  | outage {cause : RegistryError} : response.status.code = 503 →
    Conveys principal response (.error (.registry cause))

/-- The response to a question, given what was found. -/
def decisionResponse (principal : Principal) : Except PolicyError (SessionLimit × Nat) → Response
  | .ok found => .json .ok (decision principal found.1 (isRoom found)).render
  | .error (.invalidLimit e) => .plain .badRequest (PolicyError.invalidLimit e).message
  | .error (.registry _) => .empty .serviceUnavailable

theorem conveys_decisionResponse (principal : Principal)
    (found : Except PolicyError (SessionLimit × Nat)) :
    Conveys principal (decisionResponse principal found) found := by
  rcases found with (cause | cause) | ⟨limit, count⟩
  · exact .refusal rfl rfl
  · exact .outage rfl
  · exact .decision rfl (decides_decision principal limit count)

/-- What every response carries leaves the status and the body as they are. -/
theorem Conveys.completed {principal : Principal} {response : Response}
    {found : Except PolicyError (SessionLimit × Nat)} (h : Conveys principal response found)
    (id : List UInt8) : Conveys principal (completed .post id response) found := by
  cases h with
  | decision hstatus hbody => exact .decision hstatus hbody
  | refusal hstatus hbody => exact .refusal hstatus hbody
  | outage hstatus => exact .outage hstatus

namespace EntryPoint

/-- Calls an entry point, with the registry that it is to ask. -/
def call (r : Registry σ) (s : σ) : EntryPoint σ → Answer × σ
  | .attempt a =>
    let e := r.evaluateAttempt a s
    (.verdict e.result, e.state)
  | .settings a attributes =>
    let e := r.evaluate a.principal attributes s
    (.within e.isWithin, e.state)
  | .question api q =>
    let reply := Api.answerQuestion { api with registry := r } q s
    (.response reply.1, reply.2)
  | .request api freshId message =>
    let reply := Api.respond { api with registry := r } freshId message s
    (.response reply.1, reply.2)
  | .gate c _ p outcome a events =>
    let m := Controller.momentAfter
      (Controller.onOutcome { c with registry := r } p.step p.origin outcome ⟨a, s, events⟩)
    (.moment m.stage m.execution, m.situation.state)

/-- The entry point is called for the principal and carries the setting. -/
def Carries (principal : Principal) (setting : String) : EntryPoint σ → Prop
  | .attempt a => a.principal = principal ∧ a.attribute? limitAttribute = some setting
  | .settings a attributes =>
    a.principal = principal ∧ attributes.get? limitAttribute = some setting
  | .question api q =>
    q.principal = principal.text ∧ q.sessionLimit.getD api.defaultLimit.text = setting
  | .request api _ message =>
    message.method = .post ∧ Route.ofPath? message.path = some .sessionLimit ∧
      ∃ q, Question.ofRequest? message = some q ∧ q.principal = principal.text ∧
        q.sessionLimit.getD api.defaultLimit.text = setting
  | .gate c g p outcome a _ =>
    a.principal = principal ∧ a.execution.evaluated = false ∧
      c.definition.continuation? p.step outcome = some (.sessionLimitGate g) ∧
      g.attributes.get? limitAttribute = some setting

/-- By its answer the entry point tells what was found for the principal. -/
def Tells (principal : Principal) (found : Except PolicyError (SessionLimit × Nat)) :
    EntryPoint σ → Answer → Prop
  | .attempt _, answer => answer = .verdict (found.map fun found =>
      if found.2 < found.1.value then .withinLimit else .overLimit)
  | .settings _ _, answer => answer = .within (found.map isRoom)
  | .question _ _, answer | .request _ _ _, answer =>
    ∃ response, answer = .response response ∧ Conveys principal response found
  | .gate _ g p outcome a _, answer => answer =
    match found with
    | .ok found =>
      let steps := if found.2 < found.1.value then [g.proceed] else [g.remediation, g.proceed]
      .moment .going { a.execution with
        evaluated := true
        lastOutcome := some outcome
        pending := steps.map (⟨·, .scheduled⟩) ++ a.execution.pending }
    | .error cause =>
      .moment (.over (.error (.policy p.step cause))) { a.execution with
        evaluated := true
        lastOutcome := some outcome
        pending := []
        state := .failed }

variable {principal : Principal} {setting : String} (r : Registry σ) (s : σ)

theorem answerQuestion_eq {api : Api σ} {q : Question} (hp : q.principal = principal.text)
    (hs : q.sessionLimit.getD api.defaultLimit.text = setting) :
    Api.answerQuestion { api with registry := r } q s =
      (decisionResponse principal (r.find principal setting s).1,
        (r.find principal setting s).2) := by
  rw [answerQuestion, hp, Principal.ofText_text]
  dsimp only
  rw [hs]
  have hget : (Dictionary.ofList [(limitAttribute, setting)]).get? limitAttribute =
      some setting := by
    simp [Dictionary.ofList, Dictionary.insertAll]
  have hwithin := r.isWithin_evaluateSetting principal setting s
  have hstate := r.state_evaluateSetting principal setting s
  rw [Registry.evaluate, hget, hwithin, hstate, Registry.find]
  cases hlimit : SessionLimit.parse (some setting) with
  | error e => rfl
  | ok limit =>
    dsimp only
    rcases (r.count principal s).1 with e | count
    · rfl
    · rfl

theorem respond_eq {api : Api σ} {freshId : String} {message : Request} {q : Question}
    (hpost : message.method = .post) (hroute : Route.ofPath? message.path = some .sessionLimit)
    (hq : Question.ofRequest? message = some q) :
    api.respond freshId message s =
      let id := (Header.first? "x-request-id" message.headers).getD (Text.utf8 freshId)
      (completed .post id (api.answerQuestion q s).1, (api.answerQuestion q s).2) := by
  have hanswer : api.answer message s = api.answerQuestion q s := by
    rw [answer, hroute, hpost]
    simp [Route.methods, answerAt, answerPost, hq]
  rw [respond, hpost, hanswer]
  rfl

/-- The steps of a gate are those for the count. -/
theorem steps_isWithin (g : SessionLimitGate) (found : SessionLimit × Nat) :
    g.steps (Verdict.ofCount found.2 found.1).isWithin =
      if found.2 < found.1.value then [g.proceed] else [g.remediation, g.proceed] := by
  by_cases h : found.2 < found.1.value <;>
    simp [Verdict.ofCount, Verdict.isWithin, SessionLimitGate.steps, h]

theorem call_gate {c : Controller σ} {g : SessionLimitGate} {p : Pending} {outcome : Outcome}
    {a : Attempt} (events : List FlowEvent) (he : a.execution.evaluated = false)
    (hk : c.definition.continuation? p.step outcome = some (.sessionLimitGate g))
    (hg : g.attributes.get? limitAttribute = some setting) :
    let e := EntryPoint.gate c g p outcome a events
    let found := r.find a.principal setting s
    e.Tells a.principal found.1 (e.call r s).1 ∧ (e.call r s).2 = found.2 := by
  -- The situation when the outcome is followed, and the controller that asks `r`.
  let before : Situation σ := ⟨a, s, events⟩
  let asking : Controller σ := { c with registry := r }
  have hevaluation : asking.evaluationAt g (before.report p.step outcome) =
      r.evaluateSetting a.principal (some setting) s := Controller.evaluationAt_of_setting hg _
  have hresult : (asking.evaluationAt g (before.report p.step outcome)).result = _ :=
    (congrArg Evaluation.result hevaluation).trans (r.result_evaluateSetting a.principal setting s)
  have hstate : (asking.evaluationAt g (before.report p.step outcome)).state = _ :=
    (congrArg Evaluation.state hevaluation).trans (r.state_evaluateSetting a.principal setting s)
  dsimp only
  cases hfound : (r.find a.principal setting s).1 with
  | error cause =>
    rw [hfound] at hresult
    have hm : asking.Ensues p outcome before _ := .refuse hk he hresult
    rw [call, ← hm.eq_momentAfter]
    exact ⟨rfl, hstate⟩
  | ok found =>
    rw [hfound] at hresult
    have hm : asking.Ensues p outcome before _ := .pass hk he hresult
    rw [call, ← hm.eq_momentAfter, steps_isWithin]
    exact ⟨rfl, hstate⟩

/-- An entry point that carries a setting tells what is found for the principal and
    the setting, and does to the registry what finding it does. -/
theorem tells_call {e : EntryPoint σ} (h : e.Carries principal setting) :
    let found := r.find principal setting s
    e.Tells principal found.1 (e.call r s).1 ∧ (e.call r s).2 = found.2 := by
  cases e with
  | attempt a =>
    obtain ⟨rfl, hs⟩ := h
    have hevaluate : r.evaluateAttempt a s = r.evaluateSetting a.principal (some setting) s :=
      congrArg (r.evaluateSetting a.principal · s) hs
    rw [call, hevaluate, r.result_evaluateSetting, r.state_evaluateSetting]
    exact ⟨rfl, rfl⟩
  | settings a attributes =>
    obtain ⟨rfl, hs⟩ := h
    have hevaluate : r.evaluate a.principal attributes s =
        r.evaluateSetting a.principal (some setting) s :=
      congrArg (r.evaluateSetting a.principal · s) hs
    rw [call, hevaluate, r.isWithin_evaluateSetting, r.state_evaluateSetting]
    exact ⟨rfl, rfl⟩
  | question api q =>
    obtain ⟨hp, hs⟩ := h
    rw [call, answerQuestion_eq r s hp hs]
    exact ⟨⟨_, rfl, conveys_decisionResponse principal _⟩, rfl⟩
  | request api freshId message =>
    obtain ⟨hpost, hroute, q, hq, hp, hs⟩ := h
    rw [call, respond_eq s hpost hroute hq, answerQuestion_eq r s hp hs]
    exact ⟨⟨_, rfl, (conveys_decisionResponse principal _).completed _⟩, rfl⟩
  | gate c g p outcome a events =>
    obtain ⟨rfl, he, hk, hg⟩ := h
    exact call_gate r s events he hk hg

/-- The same for a registry that writes down its calls. -/
theorem tells_call_logged {e : EntryPoint (σ × List RegistryCall)}
    (h : e.Carries principal setting) (log : List RegistryCall) :
    let answer := e.call r.logged (s, log)
    match SessionLimit.parse (some setting) with
    | .error cause =>
      e.Tells principal (.error (.invalidLimit cause)) answer.1 ∧ answer.2 = (s, log)
    | .ok limit =>
      let count := r.count principal s
      e.Tells principal (limit.findings count.1) answer.1 ∧
        answer.2 = (count.2, log ++ [.count principal count.1]) := by
  have htells := tells_call r.logged (s, log) h
  rw [Registry.find] at htells
  cases hlimit : SessionLimit.parse (some setting) with
  | error cause =>
    rw [hlimit] at htells
    exact htells
  | ok limit =>
    rw [hlimit] at htells
    exact htells

end EntryPoint

/-! ### One after another -/

/-- An entry point that is called for a principal and carries a setting. -/
structure Consultation (σ : Type) where
  /-- The entry point. -/
  entry : EntryPoint σ
  /-- The principal. -/
  principal : Principal
  /-- The setting. -/
  setting : String
  /-- The entry point carries both. -/
  carries : entry.Carries principal setting

/-- Calls entry points one after another. -/
def consult (r : Registry σ) : List (Consultation σ) → σ → List Answer × σ
  | [], s => ([], s)
  | q :: later, s =>
    let first := q.entry.call r s
    let rest := consult r later first.2
    (first.1 :: rest.1, rest.2)

/-- The principals whose sessions are counted: those for which there is a limit. -/
def countedPrincipals : List (Consultation σ) → List Principal
  | [] => []
  | q :: later =>
    match SessionLimit.parse (some q.setting) with
    | .error _ => countedPrincipals later
    | .ok _ => q.principal :: countedPrincipals later

/-- By their answers entry points tell what is found with counts, each one for which
    there is a limit with the next of them. -/
inductive Deals : List (Consultation σ) → List (Except RegistryError Nat) → List Answer → Prop
  | nil : Deals [] [] []
  | refused {q : Consultation σ} {later : List (Consultation σ)}
    {counts : List (Except RegistryError Nat)} {answers : List Answer} {cause : LimitError}
    {answer : Answer} : SessionLimit.parse (some q.setting) = .error cause →
    q.entry.Tells q.principal (.error (.invalidLimit cause)) answer →
    Deals later counts answers → Deals (q :: later) counts (answer :: answers)
  | counted {q : Consultation σ} {later : List (Consultation σ)}
    {counts : List (Except RegistryError Nat)} {answers : List Answer} {limit : SessionLimit}
    {count : Except RegistryError Nat} {answer : Answer} :
    SessionLimit.parse (some q.setting) = .ok limit →
    q.entry.Tells q.principal (limit.findings count) answer →
    Deals later counts answers → Deals (q :: later) (count :: counts) (answer :: answers)

/-- Entry points that are called one after another count the sessions of the
    principals for which there is a limit, once each and in order, and each one
    tells what its own count gives. -/
theorem deals_consult (r : Registry σ) (l : List (Consultation (σ × List RegistryCall))) (s : σ)
    (log : List RegistryCall) :
    ∃ counts, counts.length = (countedPrincipals l).length ∧
      Deals l counts (consult r.logged l (s, log)).1 ∧
      (consult r.logged l (s, log)).2.2 =
        log ++ List.zipWith RegistryCall.count (countedPrincipals l) counts := by
  induction l generalizing s log with
  | nil => exact ⟨[], rfl, .nil, (List.append_nil log).symm⟩
  | cons q l ih =>
    have hcall := EntryPoint.tells_call_logged r s q.carries log
    rw [consult, countedPrincipals]
    cases hlimit : SessionLimit.parse (some q.setting) with
    | error e =>
      rw [hlimit] at hcall
      obtain ⟨htells, hstate⟩ := hcall
      obtain ⟨counts, hlen, hdeals, hlog⟩ := ih s log
      rw [hstate]
      exact ⟨counts, hlen, .refused hlimit htells hdeals, hlog⟩
    | ok limit =>
      rw [hlimit] at hcall
      obtain ⟨htells, hstate⟩ := hcall
      let reply := r.count q.principal s
      obtain ⟨counts, hlen, hdeals, hlog⟩ := ih reply.2 (log ++ [.count q.principal reply.1])
      rw [hstate]
      refine ⟨reply.1 :: counts, congrArg (· + 1) hlen, .counted hlimit htells hdeals, ?_⟩
      exact hlog.trans (List.append_assoc ..)

theorem Api.Question.route_request (q : Question) :
    Route.ofPath? q.request.path = some .sessionLimit := by
  -- The path is that of the target alone.
  have hpath : q.request.path = Request.path ⟨.post, "/v1/session-limit", [], ""⟩ := by
    rw [Request.path, Request.path, Question.request]
  rw [hpath]
  decide

/-- All entry points decide alike. Where the setting is no limit, none of them
    calls the registry; where it is one, each counts the sessions of the principal
    once, and tells what the limit and this count give. Called one after another,
    each of them has a count of its own. A question without a setting is asked with
    the default limit, whose text is a setting for it; and any question is carried
    by some request, if the service reads so long a body. -/
theorem entryPoints_agree (r : Registry σ) :
    (∀ (e : EntryPoint (σ × List RegistryCall)) (principal : Principal) (setting : String) (s : σ)
      (log : List RegistryCall), e.Carries principal setting →
      let answer := e.call r.logged (s, log)
      match SessionLimit.parse (some setting) with
      | .error cause =>
        e.Tells principal (.error (.invalidLimit cause)) answer.1 ∧ answer.2 = (s, log)
      | .ok limit =>
        let count := r.count principal s
        e.Tells principal (limit.findings count.1) answer.1 ∧
          answer.2 = (count.2, log ++ [.count principal count.1])) ∧
    (∀ (l : List (Consultation (σ × List RegistryCall))) (s : σ),
      ∃ counts, counts.length = (countedPrincipals l).length ∧
        Deals l counts (consult r.logged l (s, [])).1 ∧
        (consult r.logged l (s, [])).2.2 =
          List.zipWith RegistryCall.count (countedPrincipals l) counts) ∧
    (∀ (api : Api σ) (text : String) (s : σ), SessionLimit.parse (some api.defaultLimit.text) =
        .ok api.defaultLimit ∧
      api.answerQuestion ⟨text, none⟩ s = api.answerQuestion ⟨text, api.defaultLimit.text⟩ s) ∧
    (∀ (api : Api σ) (freshId : String) (principal : Principal) (setting : Option String),
      (Question.request ⟨principal.text, setting⟩).body.length ≤ bodyLimit →
        (EntryPoint.request api freshId (Question.request ⟨principal.text, setting⟩)).Carries
          principal (setting.getD api.defaultLimit.text)) := by
  refine ⟨fun e principal setting s log h => e.tells_call_logged r s h log, fun l s => ?_,
    fun api text s => ⟨SessionLimit.parse_text _, rfl⟩, fun api freshId principal setting h => ?_⟩
  · exact deals_consult r l s []
  · exact ⟨rfl, Question.route_request _, _, Question.ofRequest?_request h, rfl, rfl⟩

end LoginGate
