import LoginGate.Proofs.Api.Administration
import LoginGate.Proofs.Registry.Analytics
import LoginGate.Proofs.Registry.Record
import LoginGate.Registry.Database

/-!
# How long listings are

A listing is to hold `sessionListLimit` sessions at most. A store in memory sees to
that itself. The other registries ask for no more, a database by its statement and
the analytics service by its question, and list what they get: as many sessions
as there are rows, or records. The service of records is free to send more, and
then all of them are listed, also to whoever asks over HTTP.

* `Analytics.list_eq_ok_iff`: a listing has a session for each record of the reply;
* `Analytics.list_of_records`: any list of sessions may be listed;
* `listings_follow_backends`: what this means for each of the registries.
-/

namespace LoginGate

open Http

variable {σ : Type}

namespace Analytics

variable [Charsets] (a : Analytics) (t : Transport σ) (p : Principal) {sessions : List Session}

/-- What is asked to list the sessions of a principal. -/
def listInquiry : Inquiry := a.inquiry a.searchUrl (listQuestion p)

/-- Whether anything can be asked for at the address of the lists. -/
def asksForLists : Bool := admitsInquiries (shownAddress a.searchUrl)

/-- The sessions that are listed are those of the records in the reply. -/
theorem list_eq_ok_iff (s : σ) : ((a.registry t).list p s).1 = .ok sessions ↔
    a.asksForLists = true ∧ ∃ text records, (t (a.listInquiry p) s).1.Says text ∧
      Json.Value.parse text = .ok (.array records) ∧ List.Forall₂ IsRecordOf records sessions := by
  have hlist : (a.registry t).list p s =
      a.ask t a.searchUrl (listQuestion p) readSessions s := rfl
  rw [hlist, ask_eq, asksForLists]
  split
  · next hasks =>
    simp only [hasks, true_and, bind_replyText_eq_ok_iff,
      (readSessions_allOrNothing _).1 sessions, exists_and_left]
    exact Iff.rfl
  · next hasks => simp [hasks]

/-- The text of the records of sessions. -/
def recordText (sessions : List Session) : String :=
  (Json.Value.array (sessions.map Session.record)).render

/-- If the service sends records of sessions, in whatever charset it says, these are
    listed, however many they are. -/
theorem list_of_records (hasks : a.asksForLists = true) (s : σ) {headers : List Header}
    {bytes : List UInt8} (hbytes : Spells headers bytes (recordText sessions))
    (hreply : (t (a.listInquiry p) s).1 = .answer ⟨200, headers, some bytes⟩) :
    ((a.registry t).list p s).1 = .ok sessions := by
  refine (a.list_eq_ok_iff t p s).2 ⟨hasks, recordText sessions, sessions.map Session.record,
    ⟨headers, bytes, hreply, hbytes.bodyText_eq.symm⟩, parse_records sessions, ?_⟩
  exact List.forall₂_map_left_iff.2 (List.forall₂_same.2 fun x _ => x.isRecordOf_record)

end Analytics

/-! ### Listings over HTTP -/

namespace Api

/-- A listing in memory is bounded, and so is one of a database that keeps to its
    statement. The analytics service is asked for no more either, but whatever it
    sends is listed: there is a session for each record, and any list of sessions
    may be the one. The response to a request with the token lists the sessions that
    the registry gives, and leaves out none. -/
theorem listings_follow_backends [Charsets] (p : Principal) :
    (∀ (part : Part σ SessionStore) (s : σ), ∃ sessions,
      ((SessionStore.registry part).list p s).1 = .ok sessions ∧
        sessions.length ≤ sessionListLimit) ∧
    (∀ (d : Database σ) (s : σ) sessions, (d.registry.list p s).1 = .ok sessions ↔
      ∃ rows, (d.rows (Database.listStatement p) s).1 = some rows ∧
        sessions = rows.map SessionRow.session) ∧
    (∀ (a : Analytics) (t : Transport σ) (s : σ) sessions,
      (((a.registry t).list p s).1 = .ok sessions → ∃ text records,
        (t (a.listInquiry p) s).1.Says text ∧ Json.Value.parse text = .ok (.array records) ∧
          sessions.length = records.length) ∧
      (a.asksForLists = true → ∀ headers bytes,
        Spells headers bytes (Analytics.recordText sessions) →
          (t (a.listInquiry p) s).1 = .answer ⟨200, headers, some bytes⟩ →
            ((a.registry t).list p s).1 = .ok sessions)) ∧
    ∀ (api : Api σ) (request : Request) (s : σ) freshId sessions,
      api.authorizes request.headers = true → AsksToList request p.text →
        (api.registry.list p s).1 = .ok sessions →
          (api.respond freshId request s).1.status.code = 200 ∧
            Lists (api.respond freshId request s).1.body sessions := by
  refine ⟨fun part s => ?_, fun d s sessions => ?_, fun a t s sessions => ⟨fun h => ?_, ?_⟩,
    fun api request s freshId sessions ha h hlist => ?_⟩
  · exact ⟨_, rfl, (part.get s).length_list_le p⟩
  · rw [Database.registry]
    dsimp only
    cases (d.rows (Database.listStatement p) s).1 <;> simp [Database.answered, eq_comm]
  · obtain ⟨-, text, records, hsays, hparse, hall⟩ := (a.list_eq_ok_iff t p s).1 h
    exact ⟨text, records, hsays, hparse, hall.length_eq.symm⟩
  · exact fun hasks headers bytes hbytes hreply => a.list_of_records t p hasks s hbytes hreply
  · rw [respond_of_asksToList ha h hlist]
    exact ⟨rfl, lists_sessionList sessions⟩

/-! ### A long listing -/

/-- An analytics service. -/
def sampleAnalytics : Analytics where
  countUrl := ⟨"http".toList, some ⟨[], none, .name "analytics".toList, none⟩,
    .segments ["count".toList], none, none⟩
  searchUrl := ⟨"http".toList, some ⟨[], none, .name "analytics".toList, none⟩,
    .segments ["search".toList], none, none⟩
  username := "user"
  password := "pass"
  timeout := Analytics.defaultTimeout

/-- So many sessions, each with an id of its own. -/
def manySessions (n : Nat) : List Session :=
  (List.range n).map fun k => ⟨Text.numeral k, "10", "curl", "::1", "mail"⟩

/-- A service whose sessions are counted and listed by an analytics service that sends
    the records of the sessions in UTF-8 whatever it is asked. -/
def overAnalytics (sessions : List Session) : Api Unit where
  registry := sampleAnalytics.registry fun _ s =>
    (.answer ⟨200, [], some (Text.utf8 (Analytics.recordText sessions))⟩, s)
  terminator := none
  defaultLimit := LoginGate.defaultLimit
  adminToken := some "secret"

/-- The records are in UTF-8, as nothing else is said. -/
theorem spells_recordText (sessions : List Session) :
    Spells [] (Text.utf8 (Analytics.recordText sessions)) (Analytics.recordText sessions) := by
  refine .unnamed (fun name h => ?_) fun form rest h => ?_
  · obtain ⟨hs, -, -, -⟩ := h
    cases hs
  · -- No mark begins with a bracket.
    rw [Analytics.recordText, Json.Value.render, Json.Reader.text_array, Text.utf8,
      String.toList_ofList, List.cons_append, List.flatMap_cons] at h
    cases form with
    | utf8 => exact absurd (List.cons.inj h).1 (by decide)
    | utf16 order => cases order <;> exact absurd (List.cons.inj h).1 (by decide)

/-- Of 101 sessions that the service sends, a request gets all. -/
theorem listing_of_manySessions :
    sessionListLimit < (manySessions 101).length ∧
      ((overAnalytics (manySessions 101)).registry.list ⟨"alice", SessionStore.alice_not_blank⟩
        ()).1 = .ok (manySessions 101) ∧
      Lists ((overAnalytics (manySessions 101)).respond "a" ⟨.get, "/v1/principals/alice/sessions",
        [.ofText "Authorization" "Bearer secret"], ""⟩ ()).1.body (manySessions 101) := by
  have hasks : sampleAnalytics.asksForLists = true := by decide +kernel
  have hlist : ((overAnalytics (manySessions 101)).registry.list
      ⟨"alice", SessionStore.alice_not_blank⟩ ()).1 = .ok (manySessions 101) :=
    sampleAnalytics.list_of_records _ _ hasks () (spells_recordText _) rfl
  have hopen : (overAnalytics (manySessions 101)).authorizes
      [.ofText "Authorization" "Bearer secret"] = true := by decide +kernel
  have hpath : "/v1/principals/" ++ String.ofList (segmentOf (fun _ => false) "alice") ++
      "/sessions" = "/v1/principals/alice/sessions" := by decide +kernel
  have h := asksToList_segmentOf (fun _ => false) "alice"
    [.ofText "Authorization" "Bearer secret"] ""
  rw [hpath] at h
  refine ⟨?_, hlist, ?_⟩
  · rw [manySessions, List.length_map, List.length_range]
    decide
  · rw [respond_of_asksToList (p := ⟨"alice", SessionStore.alice_not_blank⟩) hopen h hlist]
    exact lists_sessionList _

end Api

end LoginGate
