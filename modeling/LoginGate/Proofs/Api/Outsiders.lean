import LoginGate.Proofs.Api.Answering
import LoginGate.Service.Setup

/-!
# Requests without the token

Whoever does not have the token of the administration can neither change the
sessions nor learn about them, except how many of them a principal holds, and
that only by asking about this principal (`outsiders_learn_counts`). This is so
for requests of any kind one after another, malformed ones among them, and it
shows in two ways: in the responses to the same requests over two stores, and in
a log of everything that is asked of the store (`Api.logged`).

Responses carry the ids of requests, which are chosen anew where a request does
not bring one. Such an id is left out when responses are compared
(`anonymous`).
-/

namespace LoginGate

open Http

namespace Api

/-! ### Requests in order -/

variable {σ : Type}

/-- Answers requests one after another. -/
def respondAll (api : Api σ) : List Arrival → σ → List (Request × Response) × σ
  | [], s => ([], s)
  | a :: later, s =>
    let first := api.respond a.freshId a.request s
    let rest := respondAll api later first.2
    ((a.request, first.1) :: rest.1, rest.2)

/-- None of the requests carries the token of the administration. -/
def Outsiders (api : Api σ) (arrivals : List Arrival) : Prop :=
  ∀ a ∈ arrivals, api.authorizes a.request.headers = false

/-- One of the requests asks about the principal. -/
def Asked (arrivals : List Arrival) (p : Principal) : Prop :=
  ∃ a ∈ arrivals, AsksAbout a.request p

/-- The response to a request, without an id that the request did not choose. -/
def anonymous (reply : Request × Response) : Response :=
  if (Header.first? "x-request-id" reply.1.headers).isSome then reply.2
  else { reply.2 with headers := reply.2.headers.filter (·.name ≠ "x-request-id") }

theorem anonymous_completed (request : Request) (freshId freshId' : String) (r : Response) :
    anonymous (request, completed request.method (answeredId freshId request) r) =
      anonymous (request, completed request.method (answeredId freshId' request) r) := by
  rw [anonymous, anonymous, answeredId, answeredId]
  cases Header.first? "x-request-id" request.headers with
  | some id => rfl
  | none => simp [completed, Response.withHeader, Header.ofText]

/-! ### The log -/

/-- What a service asks of the store that it stands on. -/
inductive StoreCall where
  /-- The sessions of a principal are counted. -/
  | count (p : Principal)
  /-- The sessions of a principal are listed. -/
  | list (p : Principal)
  /-- The store is probed. -/
  | ping
  /-- A session is closed. -/
  | terminate (id : String)
deriving DecidableEq

/-- Does something to a state with a log, and writes down what was asked for. -/
def noting {α : Type} (call : StoreCall) (f : σ → α × σ) (s : σ × List StoreCall) :
    α × (σ × List StoreCall) :=
  ((f s.1).1, ((f s.1).2, s.2 ++ [call]))

/-- The service that also writes down what it asks of its store. -/
def logged (api : Api σ) : Api (σ × List StoreCall) where
  registry := {
    count := fun p => noting (.count p) (api.registry.count p)
    list := fun p => noting (.list p) (api.registry.list p)
    ping := noting .ping api.registry.ping }
  terminator := api.terminator.map fun t => {
    terminate := fun id => noting (.terminate id) (t.terminate id) }
  defaultLimit := api.defaultLimit
  adminToken := api.adminToken

/-- What is asked of the store. -/
def Deed.calls (api : Api σ) : Deed → List StoreCall
  | .alone _ => []
  | .probe _ => [.ping]
  | .count p _ => [.count p]
  | .list p _ => [.list p]
  | .close id _ => if api.terminator.isSome then [.terminate id] else []

/-- A log changes nothing, and tells what was asked of the store. -/
theorem perform_logged (api : Api σ) (d : Deed) (s : σ) (log : List StoreCall) :
    d.perform api.logged (s, log) =
      ((d.perform api s).1, ((d.perform api s).2, log ++ d.calls api)) := by
  cases d with
  | alone response => simp [Deed.perform, Deed.calls]
  | probe response => rfl
  | count p response => rfl
  | list p response => rfl
  | close id response =>
    cases h : api.terminator with
    | none => simp [Deed.perform, Deed.calls, logged, h]
    | some t => simp [Deed.perform, Deed.calls, logged, h, noting]

/-! ### One request -/

section

variable {d : Deed} {request : Request} (h : d.Allowed false request)
include h

/-- Without the token, the store is at most probed, or the sessions counted of a
    principal that is asked about. -/
theorem Deed.Allowed.calls_of_outsider (api : Api σ) :
    ∀ call ∈ d.calls api, call = .ping ∨ ∃ p, AsksAbout request p ∧ call = .count p := by
  cases d with
  | alone response => simp [Deed.calls]
  | probe response => simp [Deed.calls]
  | count p response =>
    intro call hcall
    exact .inr ⟨p, h.1, List.mem_singleton.1 hcall⟩
  | list p response => cases h.1
  | close id response => cases h.1

variable (terminator : Option (Terminator SessionStore)) (limit : SessionLimit)
  (token : Option String) (s : SessionStore)

theorem Deed.Allowed.store_of_outsider :
    (d.perform (inMemory terminator limit token) s).2 = s := by
  cases d with
  | alone response => rfl
  | probe response => rfl
  | count p response => rfl
  | list p response => cases h.1
  | close id response => cases h.1

/-- Stores are told apart by counting the sessions of a principal that is asked
    about, if at all. -/
theorem Deed.Allowed.response_of_outsider {s' : SessionStore}
    (hs : ∀ p, AsksAbout request p → s.count p = s'.count p) :
    (d.perform (inMemory terminator limit token) s).1 =
      (d.perform (inMemory terminator limit token) s').1 := by
  cases d with
  | alone response => rfl
  | probe response => rfl
  | count p response => exact congrArg (fun count => response (.ok count)) (hs p h.1)
  | list p response => cases h.1
  | close id response => cases h.1

end

/-! ### All requests -/

theorem Asked.first {a : Arrival} {later : List Arrival} {p : Principal}
    (h : AsksAbout a.request p) : Asked (a :: later) p := ⟨a, List.mem_cons_self, h⟩

theorem Asked.later {a : Arrival} {later : List Arrival} {p : Principal} (h : Asked later p) :
    Asked (a :: later) p := by
  obtain ⟨b, hb, hp⟩ := h
  exact ⟨b, List.mem_cons_of_mem _ hb, hp⟩

theorem Outsiders.exists_deed {api : Api σ} {a : Arrival} {later : List Arrival}
    (h : Outsiders api (a :: later)) :
    ∃ d : Deed, d.Allowed false a.request ∧
      ∀ (τ : Type) (api' : Api τ), Like api api' → ∀ freshId s,
        api'.respond freshId a.request s =
          (completed a.request.method (answeredId freshId a.request) (d.perform api' s).1,
            (d.perform api' s).2) := by
  obtain ⟨d, hd, hall⟩ := Api.exists_deed api a.request
  rw [h a List.mem_cons_self] at hd
  exact ⟨d, hd, hall⟩

theorem Outsiders.later {api : Api σ} {a : Arrival} {later : List Arrival}
    (h : Outsiders api (a :: later)) : Outsiders api later :=
  fun b hb => h b (List.mem_cons_of_mem _ hb)

section

variable {terminator : Option (Terminator SessionStore)} {limit : SessionLimit}
  {token : Option String} {arrivals : List Arrival}
  (h : Outsiders (inMemory terminator limit token) arrivals)
include h

theorem Outsiders.store_eq (s : SessionStore) :
    (respondAll (inMemory terminator limit token) arrivals s).2 = s := by
  induction arrivals generalizing s with
  | nil => rfl
  | cons a later ih =>
    obtain ⟨d, hd, hall⟩ := h.exists_deed
    rw [respondAll, hall _ _ (.refl _), hd.store_of_outsider]
    exact ih h.later s

theorem Outsiders.anonymous_eq {arrivals' : List Arrival}
    (hsame : arrivals'.map Arrival.request = arrivals.map Arrival.request) {s s' : SessionStore}
    (hs : ∀ p, Asked arrivals p → s.count p = s'.count p) :
    (respondAll (inMemory terminator limit token) arrivals s).1.map anonymous =
      (respondAll (inMemory terminator limit token) arrivals' s').1.map anonymous := by
  induction arrivals generalizing arrivals' with
  | nil =>
    obtain rfl := List.map_eq_nil_iff.1 hsame
    rfl
  | cons a later ih =>
    obtain ⟨a', later', rfl, ha, hlater⟩ := List.map_eq_cons_iff.1 hsame
    obtain ⟨d, hd, hall⟩ := h.exists_deed
    rw [respondAll, respondAll, ha, hall _ _ (.refl _), hall _ _ (.refl _),
      hd.store_of_outsider, hd.store_of_outsider, List.map_cons, List.map_cons]
    -- Both stores are still the same when the later requests arrive.
    refine List.cons_eq_cons.2 ⟨?_, ih h.later hlater fun p hp => hs p hp.later⟩
    rw [hd.response_of_outsider terminator limit token s fun p hp => hs p (.first hp)]
    exact anonymous_completed ..

end

theorem Outsiders.respondAll_logged {api : Api σ} {arrivals : List Arrival}
    (h : Outsiders api arrivals) (s : σ) (log : List StoreCall) :
    ∃ calls, respondAll api.logged arrivals (s, log) =
        ((respondAll api arrivals s).1, ((respondAll api arrivals s).2, log ++ calls)) ∧
      ∀ call ∈ calls, call = .ping ∨ ∃ p, Asked arrivals p ∧ call = .count p := by
  induction arrivals generalizing s log with
  | nil => exact ⟨[], by simp [respondAll], by simp⟩
  | cons a later ih =>
    obtain ⟨d, hd, hall⟩ := h.exists_deed
    obtain ⟨calls, hcalls, hall'⟩ := ih h.later (d.perform api s).2 (log ++ d.calls api)
    refine ⟨d.calls api ++ calls, ?_, ?_⟩
    · rw [respondAll, respondAll, hall _ _ (.refl _), hall _ api.logged ⟨rfl, rfl⟩, perform_logged,
        hcalls, List.append_assoc]
    · intro call hcall
      rcases List.mem_append.1 hcall with hcall | hcall
      · refine (hd.calls_of_outsider api call hcall).imp_right ?_
        rintro ⟨p, hp, rfl⟩
        exact ⟨p, .first hp, rfl⟩
      · refine (hall' call hcall).imp_right ?_
        rintro ⟨p, hp, rfl⟩
        exact ⟨p, hp.later, rfl⟩

/-- Requests without the token leave a store of sessions as it is. Two stores in
    which the principals that are asked about hold as many sessions get the same
    responses, apart from the ids chosen for requests. The store is only probed, and
    asked for the counts of these principals: nothing is listed, and no session is
    closed. -/
theorem outsiders_learn_counts (terminator : Option (Terminator SessionStore))
    (limit : SessionLimit) (token : Option String) (arrivals : List Arrival)
    (h : Outsiders (inMemory terminator limit token) arrivals) :
    (∀ s, (respondAll (inMemory terminator limit token) arrivals s).2 = s) ∧
      (∀ arrivals' s s', arrivals'.map Arrival.request = arrivals.map Arrival.request →
        (∀ p, Asked arrivals p → s.count p = s'.count p) →
        (respondAll (inMemory terminator limit token) arrivals s).1.map anonymous =
          (respondAll (inMemory terminator limit token) arrivals' s').1.map anonymous) ∧
      ∀ s, ∃ calls, respondAll (inMemory terminator limit token).logged arrivals (s, []) =
          ((respondAll (inMemory terminator limit token) arrivals s).1, (s, calls)) ∧
        ∀ call ∈ calls, call = .ping ∨ ∃ p, Asked arrivals p ∧ call = .count p := by
  refine ⟨h.store_eq, fun arrivals' s s' hsame hs => h.anonymous_eq hsame hs, fun s => ?_⟩
  obtain ⟨calls, hcalls, hall⟩ := h.respondAll_logged s []
  rw [h.store_eq] at hcalls
  exact ⟨calls, hcalls, hall⟩

/-- Somebody asks about Alice, tries to list her sessions without a token, and to
    close one with a token that is a guess. -/
def curiousArrivals : List Arrival :=
  [⟨Question.request ⟨"alice", none⟩, "a"⟩,
    ⟨⟨.get, "/v1/principals/alice/sessions", [], ""⟩, "b"⟩,
    ⟨⟨.delete, "/v1/sessions/1", [.ofText "Authorization" "Bearer guess"], ""⟩, "c"⟩]

/-- A service whose administration is open. -/
def guarded : Api SessionStore :=
  inMemory (some (SessionStore.terminator .whole)) LoginGate.defaultLimit "secret"

/-- They cannot tell by which session Alice is logged in. -/
theorem curious_of_different_sessions :
    Outsiders guarded curiousArrivals ∧
      (respondAll guarded curiousArrivals (SessionStore.empty.openSession ⟨"alice", by decide⟩
        ⟨"1", "10", "curl", "::1", "mail"⟩)).1.map anonymous =
      (respondAll guarded curiousArrivals (SessionStore.empty.openSession ⟨"alice", by decide⟩
        ⟨"2", "20", "lynx", "::2", "news"⟩)).1.map anonymous := by
  have h : Outsiders guarded curiousArrivals := by
    unfold Outsiders
    decide +kernel
  obtain ⟨-, hsame, -⟩ := outsiders_learn_counts _ _ _ _ h
  refine ⟨h, hsame _ _ _ rfl fun p _ => ?_⟩
  by_cases hp : ⟨"alice", by decide⟩ = p <;> simp [SessionStore.count, hp]

end Api

end LoginGate
