import LoginGate.Proofs.Policy.EntryPoints
import LoginGate.Registry.Memory
import Mathlib.Data.List.TakeWhile

/-!
# What the service does with a request

A request does one thing at most to what the service stands on (`exists_deed`): it
probes the registry, has the sessions of a principal counted or listed, or has
one session closed, and the response is made of the outcome. Listing and closing
take the token of the administration; counting takes a question that names the
principal.

Paths that lead to sessions are known by their segments. A segment *stands* for a
text if it has no slash and the text is what it decodes to, as all
percent-encodings of the text do (`stands_segmentOf`).
-/

namespace LoginGate.Api

open Http

/-! ### Paths -/

/-- The path of the sessions of the principal that a segment stands for. -/
def sessionsPath (segment : List Char) : List Char :=
  Text.join '/' ["".toList, "v1".toList, "principals".toList, segment, "sessions".toList]

/-- The path of the session whose id a segment stands for. -/
def sessionPath (segment : List Char) : List Char :=
  Text.join '/' ["".toList, "v1".toList, "sessions".toList, segment]

/-- A segment of a path stands for a text. -/
structure Stands (segment : List Char) (text : String) : Prop where
  /-- It is one segment. -/
  whole : '/' ∉ segment
  /-- The text is what the segment decodes to. -/
  decoded : Text.percentDecoded? (String.ofList segment) = some text

/-- A text as one segment of a target, percent-encoded. The characters that would
    end a segment are encoded in any case, and others may be. -/
def segmentOf (more : Char → Bool) (text : String) : List Char :=
  Text.percentEncode (fun c => c == '%' || c == '/' || endsPath c || more c) text.toList

theorem stands_segmentOf (more : Char → Bool) (text : String) :
    Stands (segmentOf more text) text where
  whole := Text.not_mem_percentEncode (by simp) (by decide) (by decide) text.toList
  decoded := Text.percentDecoded?_percentEncode (by simp) text

theorem not_endsPath_of_mem_segmentOf {more : Char → Bool} {text : String} :
    ∀ c ∈ segmentOf more text, endsPath c = false := by
  have hquery : '?' ∉ segmentOf more text :=
    Text.not_mem_percentEncode (by simp [endsPath]) (by decide) (by decide) text.toList
  have hfragment : '#' ∉ segmentOf more text :=
    Text.not_mem_percentEncode (by simp [endsPath]) (by decide) (by decide) text.toList
  intro c hc
  rw [endsPath, Bool.or_eq_false_iff, beq_eq_false_iff_ne, beq_eq_false_iff_ne]
  exact ⟨fun h => hquery (h ▸ hc), fun h => hfragment (h ▸ hc)⟩

/-- A target that is a path is the path of its request. -/
theorem path_eq {request : Request} {path : List Char} (h : request.target.toList = path)
    (hslash : path.head? = some '/') (hall : ∀ c ∈ path, endsPath c = false) :
    request.path = path := by
  obtain ⟨rest, rfl⟩ := List.head?_eq_some_iff.1 hslash
  rw [Request.path, h]
  exact List.takeWhile_eq_self_iff.2 fun c hc => by rw [hall c hc]; rfl

/-- Only the empty segment stands for the empty text. -/
theorem Stands.ne_nil {segment : List Char} {text : String} (h : Stands segment text)
    (htext : text ≠ "") : segment ≠ [] := by
  rintro rfl
  exact htext (Option.some.inj h.decoded).symm

theorem ofPath?_sessionsPath {segment : List Char} (h : '/' ∉ segment) :
    Route.ofPath? (sessionsPath segment) = some (.sessions (String.ofList segment)) := by
  have hwhole : ∀ piece ∈
      ["".toList, "v1".toList, "principals".toList, segment, "sessions".toList],
      '/' ∉ piece := by
    simpa using h
  rw [Route.ofPath?, sessionsPath, Text.pieces_join (List.cons_ne_nil _ _) hwhole]
  rfl

theorem ofPath?_sessionPath {segment : List Char} (h : '/' ∉ segment) (hne : segment ≠ []) :
    Route.ofPath? (sessionPath segment) = some (.session (String.ofList segment)) := by
  have hwhole : ∀ piece ∈ ["".toList, "v1".toList, "sessions".toList, segment], '/' ∉ piece := by
    simpa using h
  rw [Route.ofPath?, sessionPath, Text.pieces_join (List.cons_ne_nil _ _) hwhole]
  exact if_neg (by simpa using hne)

theorem eq_sessionPath_of_ofPath? {path : List Char} {id : String}
    (h : Route.ofPath? path = some (.session id)) :
    '/' ∉ id.toList ∧ id ≠ "" ∧ path = sessionPath id.toList := by
  unfold Route.ofPath? at h
  split at h
  case h_4 segment hp =>
    split at h
    · cases h
    · next hne =>
      obtain rfl : segment = id := Route.session.inj (Option.some.inj h)
      have hpieces : Text.pieces '/' path =
          ["".toList, "v1".toList, "sessions".toList, segment.toList] := by
        have := congrArg (List.map String.toList) hp
        simpa [Function.comp_def] using this
      have hmem : segment.toList ∈ Text.pieces '/' path := by simp [hpieces]
      refine ⟨Text.not_mem_of_mem_pieces hmem, by simpa using hne, ?_⟩
      rw [sessionPath, ← hpieces, Text.join_pieces]
  all_goals cases h

/-- The id of the session that a request names by its path, if it names one. -/
def namedSession? (request : Request) : Option String :=
  match Route.ofPath? request.path with
  | some (.session segment) => Text.percentDecoded? segment
  | _ => none

theorem namedSession?_eq_some_iff {request : Request} {id : String} :
    namedSession? request = some id ↔
      ∃ segment, segment ≠ [] ∧ Stands segment id ∧ request.path = sessionPath segment := by
  constructor
  · intro h
    rw [namedSession?] at h
    split at h
    · next segment hroute =>
      obtain ⟨hwhole, hne, hpath⟩ := eq_sessionPath_of_ofPath? hroute
      refine ⟨segment.toList, by simpa using hne, ⟨hwhole, ?_⟩, hpath⟩
      rwa [String.ofList_toList]
    · cases h
  · rintro ⟨segment, hne, hstands, hpath⟩
    rw [namedSession?, hpath, ofPath?_sessionPath hstands.whole hne]
    exact hstands.decoded

/-! ### What requests ask for -/

/-- A request submits a question that names a principal. -/
structure AsksAbout (request : Request) (p : Principal) : Prop where
  /-- It submits something. -/
  submits : request.method = .post
  /-- It does so where questions are answered. -/
  place : Route.ofPath? request.path = some .sessionLimit
  /-- It submits a question that names the principal. -/
  question : ∃ q, Question.ofRequest? request = some q ∧ q.principal = p.text

/-- A request asks for the sessions of the principal that a text may be. -/
structure AsksToList (request : Request) (text : String) : Prop where
  /-- It asks for something. -/
  gets : request.method = .get
  /-- It asks for the sessions of the principal. -/
  place : ∃ segment, Stands segment text ∧ request.path = sessionsPath segment

/-- A request asks to close the session with an id. -/
structure AsksToClose (request : Request) (id : String) : Prop where
  /-- It removes something. -/
  deletes : request.method = .delete
  /-- It removes the session with the id. -/
  place : ∃ segment, segment ≠ [] ∧ Stands segment id ∧ request.path = sessionPath segment

/-- Whoever writes a text into the path as a segment asks for its sessions. -/
theorem asksToList_segmentOf (more : Char → Bool) (text : String) (headers : List Header)
    (body : Body) :
    AsksToList ⟨.get, "/v1/principals/" ++ String.ofList (segmentOf more text) ++ "/sessions",
      headers, body⟩ text where
  gets := rfl
  place := by
    refine ⟨_, stands_segmentOf more text, path_eq (by simp [sessionsPath, Text.join]) rfl ?_⟩
    have hsegment : ∀ c ∈ segmentOf more text, endsPath c = false := not_endsPath_of_mem_segmentOf
    simp only [sessionsPath, Text.join, List.forall_mem_append, List.forall_mem_cons]
    simpa [endsPath] using hsegment

/-- Whoever writes an id into the path as a segment asks to close the session. -/
theorem asksToClose_segmentOf (more : Char → Bool) {id : String} (hid : id ≠ "")
    (headers : List Header) (body : Body) :
    AsksToClose ⟨.delete, "/v1/sessions/" ++ String.ofList (segmentOf more id), headers, body⟩
      id where
  deletes := rfl
  place := by
    have hstands := stands_segmentOf more id
    refine ⟨_, hstands.ne_nil hid, hstands, path_eq (by simp [sessionPath, Text.join]) rfl ?_⟩
    have hsegment : ∀ c ∈ segmentOf more id, endsPath c = false := not_endsPath_of_mem_segmentOf
    simp only [sessionPath, Text.join, List.forall_mem_append, List.forall_mem_cons]
    simpa [endsPath] using hsegment

/-! ### What is done -/

/-- What is done for a request: one thing at most, and the response is made of the
    outcome. -/
inductive Deed where
  /-- Nothing is done. -/
  | alone (response : Response)
  /-- The registry is probed. -/
  | probe (response : Reachability → Response)
  /-- The sessions of a principal are counted. -/
  | count (p : Principal) (response : Except RegistryError Nat → Response)
  /-- The sessions of a principal are listed. -/
  | list (p : Principal) (response : Except RegistryError (List Session) → Response)
  /-- A session is closed, if sessions can be closed. -/
  | close (id : String) (response : Except RegistryError Bool → Response)

variable {σ τ : Type}

/-- Does what is done for a request. -/
def Deed.perform (api : Api σ) (s : σ) : Deed → Response × σ
  | .alone response => (response, s)
  | .probe response => (response (api.registry.ping s).1, (api.registry.ping s).2)
  | .count p response => (response (api.registry.count p s).1, (api.registry.count p s).2)
  | .list p response => (response (api.registry.list p s).1, (api.registry.list p s).2)
  | .close id response =>
    match api.terminator with
    | none => (.empty .notImplemented, s)
    | some t => (response (t.terminate id s).1, (t.terminate id s).2)

/-- What may be done for a request, which may carry the token or not. Only a session
    that was closed is reported as one. -/
def Deed.Allowed (authorized : Bool) (request : Request) : Deed → Prop
  | .alone response => response.status ≠ .noContent
  | .probe response => ∀ found, (response found).status ≠ .noContent
  | .count p response => AsksAbout request p ∧ ∀ found, (response found).status ≠ .noContent
  | .list _ response => authorized = true ∧ ∀ found, (response found).status ≠ .noContent
  | .close id _ => authorized = true ∧ AsksToClose request id

/-- Two services have the same token and the same limit. -/
structure Like (api : Api σ) (api' : Api τ) : Prop where
  /-- They have the same token. -/
  token : api'.adminToken = api.adminToken
  /-- They have the same limit. -/
  limit : api'.defaultLimit = api.defaultLimit

theorem Like.refl (api : Api σ) : Like api api := ⟨rfl, rfl⟩

theorem Like.authorizes_eq {api : Api σ} {api' : Api τ} (h : Like api api')
    (headers : List Header) : api'.authorizes headers = api.authorizes headers := by
  rw [authorizes, authorizes, h.token]

/-- A way of answering a request does one thing, which is the same for all services
    like a given one. -/
def DoesOneThing (api : Api σ) (request : Request) (f : ∀ τ : Type, Api τ → τ → Response × τ) :
    Prop :=
  ∃ d : Deed, d.Allowed (api.authorizes request.headers) request ∧
    ∀ (τ : Type) (api' : Api τ), Like api api' → ∀ s, f τ api' s = d.perform api' s

section

variable (api : Api σ) (request : Request)

theorem doesOneThing_answerPost (hm : request.method = .post)
    (hroute : Route.ofPath? request.path = some .sessionLimit) :
    DoesOneThing api request fun _ api' => api'.answerPost request := by
  cases hq : Question.ofRequest? request with
  | none =>
    refine ⟨.alone (.plain .badRequest "Missing payload"), by rintro ⟨⟩, fun _ api' _ s => ?_⟩
    simp only [answerPost, hq, Deed.perform]
  | some q =>
    cases hp : Principal.ofText q.principal with
    | error e =>
      refine ⟨.alone (.plain .badRequest e.message), by rintro ⟨⟩, fun _ api' _ s => ?_⟩
      simp only [answerPost, hq, answerQuestion, hp, Deed.perform]
    | ok p =>
      have htext : q.principal = p.text := (Principal.text_of_ofText hp).symm
      let setting := q.sessionLimit.getD api.defaultLimit.text
      have hfind {τ : Type} {api' : Api τ} (h : Like api api') (s : τ) :
          api'.answerPost request s =
            (decisionResponse p (api'.registry.find p setting s).1,
              (api'.registry.find p setting s).2) := by
        rw [answerPost, hq]
        exact EntryPoint.answerQuestion_eq api'.registry s htext (by rw [h.limit])
      cases hlimit : SessionLimit.parse (some setting) with
      | error e =>
        refine ⟨.alone (decisionResponse p (.error (.invalidLimit e))), by rintro ⟨⟩,
          fun _ api' h s => ?_⟩
        refine (hfind h s).trans ?_
        rw [Registry.find, hlimit]
        rfl
      | ok limit =>
        -- What is said depends on the limit and on the count alone.
        refine ⟨.count p fun count => decisionResponse p (limit.findings count),
          ⟨⟨hm, hroute, q, hq, htext⟩, fun count => ?_⟩, fun _ api' h s => ?_⟩
        · cases count <;> rintro ⟨⟩
        · refine (hfind h s).trans ?_
          rw [Registry.find, hlimit]
          rfl

theorem doesOneThing_listSessions (segment : String) :
    DoesOneThing api request fun _ api' => api'.listSessions request.headers segment := by
  cases htext : Text.percentDecoded? segment with
  | none =>
    refine ⟨.alone (notText "principal"), by rintro ⟨⟩, fun _ api' _ s => ?_⟩
    simp only [listSessions, htext, Deed.perform]
  | some text =>
    by_cases ha : api.authorizes request.headers = true
    · cases hp : Principal.ofText text with
      | error e =>
        refine ⟨.alone (.plain .badRequest e.message), by rintro ⟨⟩, fun _ api' h s => ?_⟩
        simp only [listSessions, htext, h.authorizes_eq, if_pos ha, hp, Deed.perform]
      | ok p =>
        let response : Except RegistryError (List Session) → Response
          | .ok sessions => .json .ok (sessionList sessions).render
          | .error _ => .empty .serviceUnavailable
        refine ⟨.list p response, ⟨ha, fun sessions => ?_⟩, fun _ api' h s => ?_⟩
        · cases sessions <;> rintro ⟨⟩
        · simp only [listSessions, htext, h.authorizes_eq, if_pos ha, hp, Deed.perform]
          rcases api'.registry.list p s with ⟨e | sessions, t⟩ <;> rfl
    · refine ⟨.alone (.empty .unauthorized), by rintro ⟨⟩, fun _ api' h s => ?_⟩
      simp only [listSessions, htext, h.authorizes_eq, if_neg ha, Deed.perform]

theorem doesOneThing_closeSession {segment : String} (hm : request.method = .delete)
    (hroute : Route.ofPath? request.path = some (.session segment)) :
    DoesOneThing api request fun _ api' => api'.closeSession request.headers segment := by
  cases hid : Text.percentDecoded? segment with
  | none =>
    refine ⟨.alone (notText "session_id"), by rintro ⟨⟩, fun _ api' _ s => ?_⟩
    simp only [closeSession, hid, Deed.perform]
  | some id =>
    by_cases ha : api.authorizes request.headers = true
    · have hnamed : namedSession? request = some id := by
        rw [namedSession?, hroute]
        exact hid
      have hasks : AsksToClose request id := ⟨hm, namedSession?_eq_some_iff.1 hnamed⟩
      let response : Except RegistryError Bool → Response
        | .ok true => .empty .noContent
        | .ok false => .empty .notFound
        | .error _ => .empty .serviceUnavailable
      refine ⟨.close id response, ⟨ha, hasks⟩, fun _ api' h s => ?_⟩
      simp only [closeSession, hid, h.authorizes_eq, if_pos ha, Deed.perform]
      cases api'.terminator with
      | none => rfl
      | some t =>
        dsimp only
        rcases t.terminate id s with ⟨e | _ | _, s'⟩ <;> rfl
    · refine ⟨.alone (.empty .unauthorized), by rintro ⟨⟩, fun _ api' h s => ?_⟩
      simp only [closeSession, hid, h.authorizes_eq, if_neg ha, Deed.perform]

theorem doesOneThing_answerAt {route : Route} (hroute : Route.ofPath? request.path = some route)
    (hm : request.method ∈ route.methods) :
    DoesOneThing api request fun _ api' s => api'.answerAt request s route := by
  cases route with
  | health =>
    let response (healthy : Bool) : Response :=
      let status : Status := if healthy then .ok else .serviceUnavailable
      let response : Response :=
        if request.method = .get then .json status (healthReport healthy).render
        else .empty status
      response.withHeader "x-app" productLabel
    have hstatus : ∀ healthy, (response healthy).status ≠ .noContent := by
      intro healthy
      by_cases hget : request.method = .get <;> cases healthy <;>
        simp [response, hget, Response.withHeader, Response.json, Response.empty]
    exact ⟨.probe fun found => response (found == .reached), fun _ => hstatus _,
      fun _ _ _ _ => rfl⟩
  | sessionLimit => exact doesOneThing_answerPost api request (List.mem_singleton.1 hm) hroute
  | sessions segment => exact doesOneThing_listSessions api request segment
  | session segment =>
    exact doesOneThing_closeSession api request (List.mem_singleton.1 hm) hroute
  | document => exact ⟨.alone (.json .ok document.render), by rintro ⟨⟩, fun _ _ _ _ => rfl⟩
  | pages =>
    let response := (Response.empty .seeOther).withHeader "location" "/swagger-ui/"
    exact ⟨.alone response, by rintro ⟨⟩, fun _ _ _ _ => rfl⟩
  | page => exact ⟨.alone (.empty .notFound), by rintro ⟨⟩, fun _ _ _ _ => rfl⟩

/-- Whatever a request is, one thing is done at most, and nothing that it does not
    allow. -/
theorem doesOneThing_answer : DoesOneThing api request fun _ api' => api'.answer request := by
  cases hroute : Route.ofPath? request.path with
  | none =>
    refine ⟨.alone (.empty .notFound), by rintro ⟨⟩, fun _ api' _ s => ?_⟩
    simp only [answer, hroute, Deed.perform]
  | some route =>
    by_cases hm : request.method ∈ route.methods
    · obtain ⟨d, hd, hall⟩ := doesOneThing_answerAt api request hroute hm
      refine ⟨d, hd, fun τ api' h s => ?_⟩
      simp only [answer, hroute, if_pos hm]
      exact hall τ api' h s
    · let allowed := ",".intercalate (route.methods.map Method.name)
      refine ⟨.alone ((Response.empty .methodNotAllowed).withHeader "allow" allowed), by rintro ⟨⟩,
        fun _ api' _ s => ?_⟩
      simp only [answer, hroute, if_neg hm]
      rfl

end

/-- The id that a response to a request carries. -/
def answeredId (freshId : String) (request : Request) : List UInt8 :=
  (Header.first? "x-request-id" request.headers).getD (Text.utf8 freshId)

theorem respond_of_ne_options (api : Api σ) {request : Request} (h : request.method ≠ .options)
    (freshId : String) (s : σ) :
    api.respond freshId request s =
      (completed request.method (answeredId freshId request) (api.answer request s).1,
        (api.answer request s).2) := by
  rw [respond, if_neg h]
  rfl

/-- The id of a request goes into its response, and has no part in what is done. -/
theorem exists_deed (api : Api σ) (request : Request) :
    ∃ d : Deed, d.Allowed (api.authorizes request.headers) request ∧
      ∀ (τ : Type) (api' : Api τ), Like api api' → ∀ freshId s,
        api'.respond freshId request s =
          (completed request.method (answeredId freshId request) (d.perform api' s).1,
            (d.perform api' s).2) := by
  by_cases hm : request.method = .options
  · refine ⟨.alone preflight, by rintro ⟨⟩, fun _ api' _ freshId s => ?_⟩
    rw [respond, if_pos hm]
    rfl
  · obtain ⟨d, hd, hall⟩ := doesOneThing_answer api request
    refine ⟨d, hd, fun τ api' h freshId s => ?_⟩
    rw [respond_of_ne_options api' hm, ← hall τ api' h s]

/-! ### Requests in order -/

/-- A request as it arrives. -/
structure Arrival where
  /-- The request. -/
  request : Request
  /-- The id for it, if it does not bring its own. -/
  freshId : String


/-- The service over a store of sessions in memory. -/
def inMemory (terminator : Option (Terminator SessionStore)) (limit : SessionLimit)
    (token : Option String) : Api SessionStore where
  registry := SessionStore.registry .whole
  terminator := terminator
  defaultLimit := limit
  adminToken := token

end LoginGate.Api
