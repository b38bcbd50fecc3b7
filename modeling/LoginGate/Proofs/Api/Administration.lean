import LoginGate.Proofs.Api.Answering
import LoginGate.Proofs.Registry.Log
import LoginGate.Service.Setup

/-!
# Administering sessions over HTTP

With the token, a store of sessions is seen and changed through requests as it
would be directly: the body of a listing shows the sessions of a principal as they
are held at the moment of the request, and the status of a response to closing a
session says whether somebody holds it; the session is taken away and nothing else.
No other request changes anything (`Administers`).

So whatever comes in between, requests of all kinds and sessions that are opened,
the store can be told from the responses. Every session is reported closed at most
once, and everybody holds the sessions that were opened for them and not reported
closed (`administration_follows_store`).
-/

namespace LoginGate

open Http

namespace Api

/-! ### What happens -/

/-- What may happen to a service over a store of sessions. -/
inductive Happening where
  /-- A request arrives. -/
  | request (arrival : Arrival)
  /-- A session is opened for a principal. -/
  | opening (p : Principal) (session : Session)

/-- What came of the happenings so far. -/
structure Course where
  /-- The requests with the responses to them. -/
  replies : List (Request × Response)
  /-- The store. -/
  store : SessionStore

/-- What comes of one more happening. -/
def proceed (api : Api SessionStore) (c : Course) : Happening → Course
  | .request a =>
    let answer := api.respond a.freshId a.request c.store
    ⟨c.replies ++ [(a.request, answer.1)], answer.2⟩
  | .opening p session => ⟨c.replies, c.store.openSession p session⟩

/-- What comes of happenings over a store that holds no session at first. -/
def course (api : Api SessionStore) (hs : List Happening) : Course :=
  hs.foldl (proceed api) ⟨[], .empty⟩

/-- The sessions that were opened, with whom they were opened for. -/
def openings (hs : List Happening) : List (Principal × Session) :=
  hs.filterMap fun
    | .opening p session => some (p, session)
    | .request _ => none

/-- The ids of the sessions that were opened. -/
def openedIds (hs : List Happening) : List String := (openings hs).map (·.2.id)

/-- The sessions that were opened for a principal. -/
def openedFor (hs : List Happening) (p : Principal) : List Session :=
  ((openings hs).filter (·.1 = p)).map Prod.snd

/-- The ids of the sessions that were reported closed, by the requests for it. -/
def closedIds (replies : List (Request × Response)) : List String :=
  replies.filterMap fun reply =>
    if reply.2.status.code = 204 then namedSession? reply.1 else none

/-- Every session is opened with an id of its own, which is not blank. -/
structure FreshOpenings (hs : List Happening) : Prop where
  /-- No id is used twice. -/
  nodup : (openedIds hs).Nodup
  /-- No id is blank. -/
  shown : ∀ id ∈ openedIds hs, Text.isBlankText id = false

/-- What a service over a store of sessions does with a request, given the store
    before and after it, and the response. -/
structure Administers (api : Api SessionStore) (request : Request) (s : SessionStore)
    (response : Response) (t : SessionStore) : Prop where
  /-- With the token, the sessions of a principal are listed as they are held. -/
  lists {p : Principal} : api.authorizes request.headers = true → AsksToList request p.text →
    response.status.code = 200 ∧ Lists response.body (s.list p) ∧ t = s
  /-- A blank text is no principal. -/
  refuses {text : String} : api.authorizes request.headers = true → AsksToList request text →
    Text.isBlankText text = true → response.status.code = 400 ∧ t = s
  /-- With the token, a session that somebody holds is closed, and no other. -/
  closes {id : String} : api.authorizes request.headers = true → AsksToClose request id →
    (response.status.code = 204 ∧ s.Holds id ∧ SessionStore.Closing s t id true) ∨
      (response.status.code = 404 ∧ ¬s.Holds id ∧ t = s)
  /-- No other request changes anything, nor is it reported to have closed a session. -/
  keeps : ¬(api.authorizes request.headers = true ∧ ∃ id, AsksToClose request id) →
    t = s ∧ response.status.code ≠ 204

/-- A service over a store of sessions whose administration is open. -/
def administered (limit : SessionLimit) (token : String) : Api SessionStore :=
  inMemory (some (SessionStore.terminator .whole)) limit token

/-! ### One request -/

/-- Every status has a number of its own. -/
theorem code_injective : Function.Injective Status.code := by
  intro status status' h
  cases status <;> cases status' <;> first | rfl | exact absurd h (by decide)

section

variable {σ : Type} (api : Api σ) {request : Request} (s : σ)

theorem answer_of_asksToList {text : String} (h : AsksToList request text) :
    ∃ segment, Text.percentDecoded? segment = some text ∧
      api.answer request s = api.listSessions request.headers segment s := by
  obtain ⟨hget, segment, hstands, hpath⟩ := h
  refine ⟨String.ofList segment, hstands.decoded, ?_⟩
  rw [answer, hpath, ofPath?_sessionsPath hstands.whole, hget]
  rfl

theorem answer_of_asksToClose {id : String} (h : AsksToClose request id) :
    ∃ segment, Text.percentDecoded? segment = some id ∧
      api.answer request s = api.closeSession request.headers segment s := by
  obtain ⟨hdelete, segment, hne, hstands, hpath⟩ := h
  refine ⟨String.ofList segment, hstands.decoded, ?_⟩
  rw [answer, hpath, ofPath?_sessionPath hstands.whole hne, hdelete]
  rfl

variable {api s}

/-- A request with the token gets the listing of the registry. -/
theorem respond_of_asksToList {p : Principal} {sessions : List Session}
    (ha : api.authorizes request.headers = true) (h : AsksToList request p.text)
    (hlist : (api.registry.list p s).1 = .ok sessions) (freshId : String) :
    api.respond freshId request s =
      (completed .get (answeredId freshId request) (.json .ok (sessionList sessions).render),
        (api.registry.list p s).2) := by
  obtain ⟨segment, htext, hanswer⟩ := answer_of_asksToList api s h
  rw [respond_of_ne_options _ (by rw [h.gets]; decide), hanswer, h.gets]
  simp only [listSessions, htext, if_pos ha, Principal.ofText_text]
  generalize api.registry.list p s = r at hlist
  obtain ⟨_, t⟩ := r
  obtain rfl := hlist
  rfl

end

section

variable {limit : SessionLimit} {token : String} {request : Request} {s : SessionStore}
  (ha : (administered limit token).authorizes request.headers = true)
include ha

theorem respond_of_principal {p : Principal} (h : AsksToList request p.text) (freshId : String) :
    (administered limit token).respond freshId request s =
      (completed .get (answeredId freshId request)
        (.json .ok (sessionList (s.list p)).render), s) :=
  respond_of_asksToList ha h rfl freshId

theorem respond_of_blank {text : String} (h : AsksToList request text)
    (hblank : Text.isBlankText text = true) (freshId : String) :
    (administered limit token).respond freshId request s =
      (completed .get (answeredId freshId request)
        (.plain .badRequest PrincipalError.blank.message), s) := by
  obtain ⟨segment, htext, hanswer⟩ := answer_of_asksToList (administered limit token) s h
  have hof : Principal.ofText text = .error .blank := dif_neg (by simp [hblank])
  rw [respond_of_ne_options _ (by rw [h.gets]; decide), hanswer, h.gets]
  simp only [listSessions, htext, if_pos ha, hof]

theorem respond_of_asksToClose {id : String} (h : AsksToClose request id) (freshId : String) :
    (administered limit token).respond freshId request s =
      (completed .delete (answeredId freshId request)
        (.empty (if (s.terminate id).1 then .noContent else .notFound)), (s.terminate id).2) := by
  obtain ⟨segment, hid, hanswer⟩ := answer_of_asksToClose (administered limit token) s h
  have hopen : (administered limit token).terminator = some (SessionStore.terminator .whole) := rfl
  have hterminate : (SessionStore.terminator .whole).terminate id s =
      (.ok (s.terminate id).1, (s.terminate id).2) := rfl
  rw [respond_of_ne_options _ (by rw [h.deletes]; decide), hanswer, h.deletes]
  simp only [closeSession, hid, if_pos ha, hopen, hterminate]
  cases (s.terminate id).1 <;> rfl

end

/-- Whatever else a request asks for, it changes nothing. -/
theorem respond_of_other {limit : SessionLimit} {token : String} {request : Request}
    (h : ¬((administered limit token).authorizes request.headers = true ∧
      ∃ id, AsksToClose request id)) (freshId : String) (s : SessionStore) :
    ((administered limit token).respond freshId request s).2 = s ∧
      ((administered limit token).respond freshId request s).1.status.code ≠ 204 := by
  obtain ⟨d, hd, hall⟩ := exists_deed (administered limit token) request
  have hcode {status : Status} (hne : status ≠ .noContent) : status.code ≠ 204 :=
    fun h => hne (code_injective h)
  rw [hall _ _ (.refl _)]
  cases d with
  | alone response => exact ⟨rfl, hcode hd⟩
  | probe response => exact ⟨rfl, hcode (hd _)⟩
  | count p response => exact ⟨rfl, hcode (hd.2 _)⟩
  | list p response => exact ⟨rfl, hcode (hd.2 _)⟩
  | close id response => exact absurd ⟨hd.1, id, hd.2⟩ h

/-- Every request is dealt with as it should, whatever store of different sessions it
    finds. -/
theorem administers {limit : SessionLimit} {token : String} {s : SessionStore} (h : s.Distinct)
    (a : Arrival) :
    let answer := (administered limit token).respond a.freshId a.request s
    Administers (administered limit token) a.request s answer.1 answer.2 where
  lists ha hasks := by
    rw [respond_of_principal ha hasks]
    exact ⟨rfl, lists_sessionList _, rfl⟩
  refuses ha hasks hblank := by
    rw [respond_of_blank ha hasks hblank]
    exact ⟨rfl, rfl⟩
  closes {id} ha hasks := by
    rw [respond_of_asksToClose ha hasks]
    by_cases hid : s.Holds id
    · have hfound : (s.terminate id).1 = true := h.terminate_iff.2 hid
      rw [hfound]
      exact .inl ⟨rfl, hid, hfound ▸ h.closing id⟩
    · rw [SessionStore.terminate_of_not_holds hid]
      exact .inr ⟨rfl, hid, rfl⟩
  keeps hother := respond_of_other hother a.freshId s

/-! ### All that happens -/

section

variable (api : Api SessionStore) (hs : List Happening)

theorem course_request (a : Arrival) :
    course api (hs ++ [.request a]) =
      let answer := api.respond a.freshId a.request (course api hs).store
      ⟨(course api hs).replies ++ [(a.request, answer.1)], answer.2⟩ := by
  rw [course, List.foldl_append]
  rfl

theorem course_opening (p : Principal) (session : Session) :
    course api (hs ++ [.opening p session]) =
      ⟨(course api hs).replies, (course api hs).store.openSession p session⟩ := by
  rw [course, List.foldl_append]
  rfl

end

variable {limit : SessionLimit} {token : String} {hs : List Happening} {p q : Principal}
  {x : Session} {id : String}

theorem openings_append (hs later : List Happening) :
    openings (hs ++ later) = openings hs ++ openings later := List.filterMap_append ..

theorem openedFor_opening : openedFor (hs ++ [.opening p x]) q =
    if p = q then openedFor hs q ++ [x] else openedFor hs q := by
  rw [openedFor, openings_append, List.filter_append, List.map_append]
  by_cases hpq : p = q <;> simp [openings, openedFor, hpq]

theorem openedFor_request {a : Arrival} :
    openedFor (hs ++ [.request a]) p = openedFor hs p := by
  simp [openedFor, openings]

theorem openedIds_append (hs later : List Happening) :
    openedIds (hs ++ later) = openedIds hs ++ openedIds later := by
  rw [openedIds, openings_append, List.map_append]
  rfl

theorem mem_openedIds_of_openedFor (h : x ∈ openedFor hs p) : x.id ∈ openedIds hs := by
  obtain ⟨e, he, rfl⟩ := List.mem_map.1 h
  exact List.mem_map_of_mem (List.mem_filter.1 he).1

theorem FreshOpenings.of_append {later : List Happening} (h : FreshOpenings (hs ++ later)) :
    FreshOpenings hs := by
  obtain ⟨hn, hshown⟩ := h
  rw [openedIds_append] at hn hshown
  exact ⟨hn.of_append_left, fun id hid => hshown id (List.mem_append_left _ hid)⟩

/-- An id that is opened last was not opened before. -/
theorem FreshOpenings.not_mem (h : FreshOpenings (hs ++ [.opening p x])) : x.id ∉ openedIds hs := by
  have hn := h.nodup
  rw [openedIds_append] at hn
  exact fun hmem => List.disjoint_of_nodup_append hn hmem (List.mem_singleton_self x.id)

theorem closedIds_append (replies later : List (Request × Response)) :
    closedIds (replies ++ later) = closedIds replies ++ closedIds later := List.filterMap_append ..

/-- A reply reports no session closed, or the one that the request names. -/
theorem closedIds_singleton (reply : Request × Response) :
    closedIds [reply] =
      if reply.2.status.code = 204 then (namedSession? reply.1).toList else [] := by
  by_cases h : reply.2.status.code = 204
  · cases hid : namedSession? reply.1 <;> simp [closedIds, h, hid]
  · simp [closedIds, h]

/-- The store and the replies after happenings tell the same. -/
structure Tallies (hs : List Happening) (c : Course) : Prop where
  /-- The sessions have different ids. -/
  distinct : c.store.Distinct
  /-- Everybody holds the sessions opened for them that are not reported closed. -/
  live (p : Principal) :
    c.store.live p = (openedFor hs p).filter (·.id ∉ closedIds c.replies)
  /-- Sessions that are reported closed were opened. -/
  opened : ∀ id ∈ closedIds c.replies, id ∈ openedIds hs
  /-- No session is reported closed twice. -/
  nodup : (closedIds c.replies).Nodup

section Tallies

variable {c : Course} (h : Tallies hs c)
include h

/-- A session that somebody holds was opened, and is not reported closed. -/
theorem Tallies.of_holds (hid : c.store.Holds id) :
    id ∈ openedIds hs ∧ id ∉ closedIds c.replies := by
  obtain ⟨p, x, hx, rfl⟩ := hid
  rw [h.live, List.mem_filter, decide_eq_true_iff] at hx
  exact ⟨mem_openedIds_of_openedFor hx.1, hx.2⟩

theorem Tallies.opening (hf : FreshOpenings (hs ++ [.opening p x])) :
    Tallies (hs ++ [.opening p x]) ⟨c.replies, c.store.openSession p x⟩ where
  distinct := by
    -- What is held was opened before, so nobody holds a session with the new id.
    refine h.distinct.openSession p (hf.shown x.id ?_) fun hx => hf.not_mem (h.of_holds hx).1
    rw [openedIds_append]
    exact List.mem_append_right _ (List.mem_singleton_self x.id)
  live q := by
    -- The new session is not reported closed, as it was not opened before.
    have hclosed : x.id ∉ closedIds c.replies := fun hmem => hf.not_mem (h.opened _ hmem)
    rw [SessionStore.live_openSession, openedFor_opening, h.live]
    by_cases hpq : p = q
    · rw [if_pos hpq, if_pos hpq, List.filter_append, List.filter_singleton]
      simp [hclosed]
    · rw [if_neg hpq, if_neg hpq]
  opened id hid := by
    rw [openedIds_append]
    exact List.mem_append_left _ (h.opened id hid)
  nodup := h.nodup

/-- A request that leaves the store alone and is not reported to have closed a
    session. -/
theorem Tallies.unchanged (a : Arrival) {response : Response}
    (hstatus : response.status.code ≠ 204) :
    Tallies (hs ++ [.request a]) ⟨c.replies ++ [(a.request, response)], c.store⟩ := by
  have hclosed : closedIds (c.replies ++ [(a.request, response)]) = closedIds c.replies := by
    rw [closedIds_append, closedIds_singleton, if_neg hstatus, List.append_nil]
  refine ⟨h.distinct, fun p => ?_, ?_, ?_⟩
  · rw [hclosed, openedFor_request]
    exact h.live p
  · rw [hclosed, openedIds_append]
    exact fun id hid => List.mem_append_left _ (h.opened id hid)
  · rw [hclosed]
    exact h.nodup

/-- A request that closes a session that somebody holds, and reports it. -/
theorem Tallies.closed {a : Arrival} {response : Response} (hid : c.store.Holds id)
    (hnamed : namedSession? a.request = some id) (hstatus : response.status.code = 204) :
    Tallies (hs ++ [.request a])
      ⟨c.replies ++ [(a.request, response)], (c.store.terminate id).2⟩ := by
  obtain ⟨hopened, hnew⟩ := h.of_holds hid
  have hclosed : closedIds (c.replies ++ [(a.request, response)]) =
      closedIds c.replies ++ [id] := by
    rw [closedIds_append, closedIds_singleton, if_pos hstatus, hnamed]
    rfl
  refine ⟨h.distinct.terminate id, fun p => ?_, ?_, ?_⟩
  -- Closing filters the sessions of everybody, and so does the report.
  · rw [hclosed, h.distinct.live_terminate, h.live, openedFor_request, List.filter_filter]
    refine List.filter_congr fun x _ => ?_
    simp [and_comm]
  · rw [hclosed, openedIds_append]
    intro id' hid'
    rcases List.mem_append.1 hid' with hid' | hid'
    · exact List.mem_append_left _ (h.opened id' hid')
    · rw [List.mem_singleton.1 hid']
      exact List.mem_append_left _ hopened
  · rw [hclosed]
    refine h.nodup.append (List.nodup_singleton id) ?_
    rwa [List.disjoint_singleton]

theorem Tallies.request (a : Arrival) :
    let answer := (administered limit token).respond a.freshId a.request c.store
    Tallies (hs ++ [.request a]) ⟨c.replies ++ [(a.request, answer.1)], answer.2⟩ := by
  by_cases hclose : (administered limit token).authorizes a.request.headers = true ∧
      ∃ id, AsksToClose a.request id
  · obtain ⟨ha, id, hasks⟩ := hclose
    rw [respond_of_asksToClose ha hasks]
    by_cases hid : c.store.Holds id
    · have hfound : (c.store.terminate id).1 = true := h.distinct.terminate_iff.2 hid
      rw [hfound]
      exact h.closed hid (namedSession?_eq_some_iff.2 hasks.place) rfl
    · rw [SessionStore.terminate_of_not_holds hid]
      have hcode : Status.notFound.code ≠ 204 := by decide
      exact h.unchanged a hcode
  · obtain ⟨hstore, hstatus⟩ := respond_of_other hclose a.freshId c.store
    dsimp only
    rw [hstore]
    exact h.unchanged a hstatus

end Tallies

theorem tallies_course (h : FreshOpenings hs) :
    Tallies hs (course (administered limit token) hs) := by
  induction hs using List.reverseRecOn with
  | nil =>
    exact ⟨SessionStore.distinct_empty, fun _ => rfl, fun _ hid => absurd hid List.not_mem_nil,
      List.nodup_nil⟩
  | append_singleton hs happening ih =>
    cases happening with
    | request a =>
      rw [course_request]
      exact (ih h.of_append).request a
    | opening p x =>
      rw [course_opening]
      exact (ih h.of_append).opening h

/-- If every session is opened with an id of its own that is not blank, the store can
    be told from the responses. Every request is dealt with as the store at the
    moment tells (`Administers`); no session is reported closed twice, and everybody
    holds the sessions that were opened for them and not reported closed. Any
    principal and any session can be asked for in this way, by writing them into the
    path as a segment. -/
theorem administration_follows_store (limit : SessionLimit) (token : String)
    {hs : List Happening} (h : FreshOpenings hs) :
    (∀ before a after, hs = before ++ .request a :: after → ∃ response t,
        course (administered limit token) (before ++ [.request a]) =
          ⟨(course (administered limit token) before).replies ++ [(a.request, response)], t⟩ ∧
        Administers (administered limit token) a.request
          (course (administered limit token) before).store response t) ∧
      (closedIds (course (administered limit token) hs).replies).Nodup ∧
      (∀ p, (course (administered limit token) hs).store.live p =
        (openedFor hs p).filter
          (·.id ∉ closedIds (course (administered limit token) hs).replies)) ∧
      ∀ more text headers body,
        AsksToList ⟨.get, "/v1/principals/" ++ String.ofList (segmentOf more text) ++ "/sessions",
          headers, body⟩ text ∧
        (text ≠ "" → AsksToClose
          ⟨.delete, "/v1/sessions/" ++ String.ofList (segmentOf more text), headers, body⟩ text) := by
  have htallies : Tallies hs (course (administered limit token) hs) := tallies_course h
  refine ⟨?_, htallies.nodup, htallies.live, fun more text headers body =>
    ⟨asksToList_segmentOf more text headers body,
      fun htext => asksToClose_segmentOf more htext headers body⟩⟩
  rintro before a after rfl
  have hbefore : Tallies before (course (administered limit token) before) :=
    tallies_course h.of_append
  exact ⟨_, _, course_request _ before a, administers hbefore.distinct a⟩

/-- Alice logs in twice, and her first session is to be closed: by a request without
    the token, and twice by one with it. -/
def aliceIsClosed : List Happening :=
  let closing (headers : List Header) : Request := ⟨.delete, "/v1/sessions/%31", headers, ""⟩
  let authorized : List Header := [.ofText "Authorization" "Bearer secret"]
  [.opening ⟨"alice", SessionStore.alice_not_blank⟩ ⟨"1", "10", "curl", "::1", "mail"⟩,
    .opening ⟨"alice", SessionStore.alice_not_blank⟩ ⟨"2", "20", "lynx", "::2", "news"⟩,
    .request ⟨closing [], "a"⟩, .request ⟨closing authorized, "b"⟩,
    .request ⟨closing authorized, "c"⟩]

/-- One request is reported to have closed it, and the other session is left. -/
theorem course_of_aliceIsClosed :
    FreshOpenings aliceIsClosed ∧
      closedIds (course (administered LoginGate.defaultLimit "secret") aliceIsClosed).replies =
        ["1"] ∧
      (course (administered LoginGate.defaultLimit "secret") aliceIsClosed).store.live
        ⟨"alice", by decide⟩ = [⟨"2", "20", "lynx", "::2", "news"⟩] := by
  have h : FreshOpenings aliceIsClosed := ⟨by decide, by decide⟩
  have hclosed : closedIds (course (administered LoginGate.defaultLimit "secret")
      aliceIsClosed).replies = ["1"] := by decide +kernel
  obtain ⟨-, -, hlive, -⟩ := administration_follows_store LoginGate.defaultLimit "secret" h
  refine ⟨h, hclosed, ?_⟩
  rw [hlive, hclosed]
  decide

end Api

end LoginGate
