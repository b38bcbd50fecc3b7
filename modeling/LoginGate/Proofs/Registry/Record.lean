import LoginGate.Proofs.Json.Documents
import LoginGate.Proofs.Json.Gives
import LoginGate.Registry.Analytics
import Mathlib.Data.List.Forall2

/-!
# Sessions are read all or nothing

A body lists sessions if it is an array of documents that all are records of
sessions, and then it lists one session for each of them, in their order. What
a document is a record of is said by its members alone (`IsRecordOf`): a member
is the last of its key, a string stands for itself, and any other value but
`null` for its compact text in canonical form.

* `Json.Value.get?_eq_some_iff`: what is looked up is the last of its key;
* `Session.ofRecord_eq_ok_iff`, `Session.ofRecord_eq_error_iff`: single records;
* `mapM_eq_ok_iff`: lists that are read item by item;
* `Analytics.readSessions_allOrNothing`: every body;
* `Session.isRecordOf_record`, `Analytics.parse_records`: every session has a
  record, and records that are written are read again.
-/

namespace LoginGate

/-! ### Members of documents -/

namespace Json.Value

variable {v w : Value} {key name s : String}

/-- The document is an object, and `w` its last member with the key. -/
def Has (v : Value) (key : String) (w : Value) : Prop :=
  ∃ before after, v = .object (before ++ (key, w) :: after) ∧ ∀ m ∈ after, m.1 ≠ key

/-- What a value other than `null` is as a text. -/
inductive Shows : Value → String → Prop
  /-- A string is the text. -/
  | string (s : String) : Shows (.string s) s
  /-- Any other value has a compact text. -/
  | other {v : Value} : (∀ s, v ≠ .string s) → v ≠ .null → Shows v v.canonical.render

/-- What a member is as a text if it may be missing: empty without a value. -/
inductive ShowsMember (v : Value) (name : String) : String → Prop
  /-- The member has a value. -/
  | present {w : Value} {s : String} : v.Has name w → w.Shows s → ShowsMember v name s
  /-- The member is `null`. -/
  | null : v.Has name .null → ShowsMember v name ""
  /-- There is no such member. -/
  | absent : (∀ w, ¬v.Has name w) → ShowsMember v name ""

theorem Shows.ne_null (h : v.Shows s) : v ≠ .null := by
  rintro rfl
  cases h with
  | other _ hnull => exact hnull rfl

theorem get?_eq_some_iff : v.get? key = some w ↔ v.Has key w := by
  constructor
  · intro h
    cases v with
    | object members =>
      obtain ⟨after, before, hsplit, hafter⟩ := List.lookup_eq_some_iff.1 h
      refine ⟨before.reverse, after.reverse, ?_, fun m hm => ?_⟩
      · rw [← List.reverse_reverse members, hsplit]
        simp
      · have hne := hafter m (List.mem_reverse.1 hm)
        rw [bne_iff_ne] at hne
        exact hne.symm
    | _ => cases h
  · rintro ⟨before, after, rfl, hafter⟩
    refine List.lookup_eq_some_iff.2 ⟨after.reverse, before.reverse, by simp, fun m hm => ?_⟩
    rw [bne_iff_ne]
    exact (hafter m (List.mem_reverse.1 hm)).symm

/-- A key has one value. -/
theorem Has.unique {w' : Value} (h : v.Has key w) (h' : v.Has key w') : w = w' :=
  Option.some.inj ((get?_eq_some_iff.2 h).symm.trans (get?_eq_some_iff.2 h'))

theorem get?_eq_none_iff : v.get? key = none ↔ ∀ w, ¬v.Has key w := by
  simp only [← get?_eq_some_iff, Option.eq_none_iff_forall_ne_some, ne_eq]

theorem fieldText?_eq_none_iff : v.fieldText? = none ↔ v = .null := by
  cases v <;> simp [fieldText?]

theorem fieldText?_eq_some_iff : v.fieldText? = some s ↔ v.Shows s := by
  constructor
  · intro h
    cases v with
    | null => cases h
    | string t => exact Option.some.inj h ▸ .string t
    | _ => exact Option.some.inj h ▸ .other nofun nofun
  · rintro (⟨s⟩ | ⟨hstring, hnull⟩)
    · rfl
    · cases v with
      | null => exact absurd rfl hnull
      | string t => exact absurd rfl (hstring t)
      | _ => rfl

end Json.Value

/-! ### Single records -/

namespace Session

variable {v record : Json.Value} {name s : String} {session : Session}

theorem recordField?_eq_some_iff :
    recordField? v name = some s ↔ ∃ w, v.Has name w ∧ w.Shows s := by
  rw [recordField?, Option.bind_eq_some_iff]
  simp only [Json.Value.get?_eq_some_iff, Json.Value.fieldText?_eq_some_iff]

theorem recordField?_eq_none_iff :
    recordField? v name = none ↔ v.Has name .null ∨ ∀ w, ¬v.Has name w := by
  rw [recordField?, Option.bind_eq_none_iff]
  simp only [Json.Value.fieldText?_eq_none_iff, Json.Value.get?_eq_some_iff]
  rw [← Json.Value.get?_eq_none_iff]
  cases h : v.get? name with
  | none => simp [← Json.Value.get?_eq_some_iff, h]
  | some w => simp [← Json.Value.get?_eq_some_iff, h]

/-- A field that may be missing is what its member shows. -/
theorem getD_recordField?_eq_iff :
    (recordField? v name).getD "" = s ↔ v.ShowsMember name s := by
  constructor
  · rintro rfl
    cases h : recordField? v name with
    | none =>
      obtain hnull | habsent := recordField?_eq_none_iff.1 h
      · exact .null hnull
      · exact .absent habsent
    | some t =>
      obtain ⟨w, hw, ht⟩ := recordField?_eq_some_iff.1 h
      exact .present hw ht
  · rintro (⟨hw, hs⟩ | hnull | habsent)
    · rw [recordField?_eq_some_iff.2 ⟨_, hw, hs⟩, Option.getD_some]
    · rw [recordField?_eq_none_iff.2 (.inl hnull), Option.getD_none]
    · rw [recordField?_eq_none_iff.2 (.inr habsent), Option.getD_none]

end Session

/-- The document is an object whose `values` are an object with an id. -/
def IsRecord (record : Json.Value) : Prop :=
  ∃ values id, record.Has "values" values ∧ values.Has "sessionId" id ∧ id ≠ .null

/-- The document is a record of the session. -/
def IsRecordOf (record : Json.Value) (session : Session) : Prop :=
  record.ShowsMember "timestamp" session.timestamp ∧
    ∃ values, record.Has "values" values ∧
      (∃ id, values.Has "sessionId" id ∧ id.Shows session.id) ∧
      values.ShowsMember "userAgent" session.userAgent ∧
      values.ShowsMember "remoteIp" session.ipAddress ∧
      values.ShowsMember "serviceProvider" session.serviceProvider

namespace Session

variable {record values : Json.Value} {session : Session} {e : RegistryError}

theorem ofRecord_of_no_values (h : record.get? "values" = none) :
    ofRecord record = .error (.unavailable "session record without sessionId") := by
  rw [ofRecord, h]
  rfl

theorem ofRecord_of_values (h : record.get? "values" = some values) :
    ofRecord record = match recordField? values "sessionId" with
      | none => .error (.unavailable "session record without sessionId")
      | some id => .ok {
          id
          timestamp := (recordField? record "timestamp").getD ""
          userAgent := (recordField? values "userAgent").getD ""
          ipAddress := (recordField? values "remoteIp").getD ""
          serviceProvider := (recordField? values "serviceProvider").getD "" } := by
  rw [ofRecord, h]
  rfl

theorem ofRecord_eq_ok_iff : ofRecord record = .ok session ↔ IsRecordOf record session := by
  constructor
  · intro h
    cases hvalues : record.get? "values" with
    | none => cases (ofRecord_of_no_values hvalues).symm.trans h
    | some values =>
      rw [ofRecord_of_values hvalues] at h
      split at h
      · cases h
      · next id hid =>
        obtain rfl := Except.ok.inj h
        exact ⟨getD_recordField?_eq_iff.1 rfl, values, Json.Value.get?_eq_some_iff.1 hvalues,
          recordField?_eq_some_iff.1 hid, getD_recordField?_eq_iff.1 rfl,
          getD_recordField?_eq_iff.1 rfl, getD_recordField?_eq_iff.1 rfl⟩
  · rintro ⟨htime, values, hvalues, hid, hagent, haddress, hprovider⟩
    rw [ofRecord_of_values (Json.Value.get?_eq_some_iff.2 hvalues), recordField?_eq_some_iff.2 hid,
      getD_recordField?_eq_iff.2 htime, getD_recordField?_eq_iff.2 hagent,
      getD_recordField?_eq_iff.2 haddress, getD_recordField?_eq_iff.2 hprovider]

/-- Every record is a record of some session: all but the id may be missing. -/
theorem isRecord_iff_exists : IsRecord record ↔ ∃ session, IsRecordOf record session := by
  constructor
  · rintro ⟨values, id, hvalues, hid, hnull⟩
    obtain ⟨s, hs⟩ := Option.ne_none_iff_exists'.1 (mt Json.Value.fieldText?_eq_none_iff.1 hnull)
    exact ⟨⟨s, _, _, _, _⟩, getD_recordField?_eq_iff.1 rfl, values, hvalues,
      ⟨id, hid, Json.Value.fieldText?_eq_some_iff.1 hs⟩, getD_recordField?_eq_iff.1 rfl,
      getD_recordField?_eq_iff.1 rfl, getD_recordField?_eq_iff.1 rfl⟩
  · rintro ⟨session, -, values, hvalues, ⟨id, hid, hs⟩, -⟩
    exact ⟨values, id, hvalues, hid, hs.ne_null⟩

theorem ofRecord_eq_error_iff : ofRecord record = .error e ↔
    e = .unavailable "session record without sessionId" ∧ ¬IsRecord record := by
  have hrefused : ¬IsRecord record ↔ ∀ session, ofRecord record ≠ .ok session := by
    simp only [isRecord_iff_exists, not_exists, ne_eq, ofRecord_eq_ok_iff]
  rw [hrefused]
  cases hvalues : record.get? "values" with
  | none => simp [ofRecord_of_no_values hvalues, eq_comm]
  | some values =>
    rw [ofRecord_of_values hvalues]
    cases recordField? values "sessionId" <;> simp [eq_comm]

end Session

/-! ### Lists -/

section Lists

variable {α β ε : Type} {f : α → Except ε β} {l : List α}

/-- A list is read if each of its items is, in their order. -/
theorem mapM_eq_ok_iff {l' : List β} :
    l.mapM f = .ok l' ↔ List.Forall₂ (fun a b => f a = .ok b) l l' := by
  induction l generalizing l' with
  | nil => cases l' <;> simp [pure, Except.pure]
  | cons a l ih =>
    rw [List.mapM_cons]
    cases ha : f a with
    | error e => cases l' <;> simp [bind, Except.bind, ha]
    | ok b =>
      cases hl : l.mapM f with
      | error e => cases l' <;> simp [bind, Except.bind, ← ih, ha, hl]
      | ok bs => cases l' <;> simp [bind, Except.bind, pure, Except.pure, ← ih, ha, hl]

/-- A list that is not read has an item that is not. -/
theorem exists_of_mapM_eq_error {e : ε} (h : l.mapM f = .error e) : ∃ a ∈ l, f a = .error e := by
  induction l with
  | nil => cases h
  | cons a l ih =>
    rw [List.mapM_cons] at h
    cases ha : f a with
    | error e' => exact ⟨a, List.mem_cons_self, by simpa [ha, bind, Except.bind] using h⟩
    | ok b =>
      cases hl : l.mapM f with
      | error e' =>
        have he : l.mapM f = .error e := by simpa [ha, hl, bind, Except.bind] using h
        obtain ⟨a', ha', he'⟩ := ih he
        exact ⟨a', List.mem_cons_of_mem a ha', he'⟩
      | ok bs => simp [ha, hl, bind, Except.bind, pure, Except.pure] at h

end Lists

namespace Analytics

variable {body : String} {records : List Json.Value} {sessions : List Session} {e : RegistryError}

theorem readSessions_of_array (h : Json.Value.parse body = .ok (.array records)) :
    readSessions body = records.mapM Session.ofRecord := by
  rw [readSessions, Json.Reader.run_array_value.2 h]

theorem readSessions_of_no_array (h : ∀ records, Json.Value.parse body ≠ .ok (.array records)) :
    readSessions body = .error (.unavailable "invalid session records") := by
  rw [readSessions]
  split
  · rfl
  · next records hrun => exact absurd (Json.Reader.run_array_value.1 hrun) (h records)

theorem mapM_ofRecord_eq_ok_iff :
    records.mapM Session.ofRecord = .ok sessions ↔ List.Forall₂ IsRecordOf records sessions := by
  simp only [mapM_eq_ok_iff, Session.ofRecord_eq_ok_iff]

theorem isRecord_of_forall₂ (h : List.Forall₂ IsRecordOf records sessions) :
    ∀ record ∈ records, IsRecord record := by
  induction h with
  | nil => exact nofun
  | cons hrecord _ ih =>
    exact List.forall_mem_cons.2 ⟨Session.isRecord_iff_exists.2 ⟨_, hrecord⟩, ih⟩

/-- One bad record, wherever it stands, is enough for there to be no list. -/
theorem mapM_ofRecord_eq_error_iff : records.mapM Session.ofRecord = .error e ↔
    e = .unavailable "session record without sessionId" ∧ ∃ record ∈ records, ¬IsRecord record := by
  constructor
  · intro h
    obtain ⟨record, hmem, hrecord⟩ := exists_of_mapM_eq_error h
    obtain ⟨he, hbad⟩ := Session.ofRecord_eq_error_iff.1 hrecord
    exact ⟨he, record, hmem, hbad⟩
  · rintro ⟨rfl, record, hmem, hbad⟩
    cases hall : records.mapM Session.ofRecord with
    | error e' =>
      obtain ⟨record', -, hrecord'⟩ := exists_of_mapM_eq_error hall
      rw [(Session.ofRecord_eq_error_iff.1 hrecord').1]
    | ok sessions =>
      exact absurd (isRecord_of_forall₂ (mapM_ofRecord_eq_ok_iff.1 hall) record hmem) hbad

theorem exists_mapM_ofRecord_iff :
    (∃ sessions, records.mapM Session.ofRecord = .ok sessions) ↔
      ∀ record ∈ records, IsRecord record := by
  constructor
  · rintro ⟨sessions, h⟩
    exact isRecord_of_forall₂ (mapM_ofRecord_eq_ok_iff.1 h)
  · intro h
    cases hall : records.mapM Session.ofRecord with
    | error e =>
      obtain ⟨-, record, hmem, hbad⟩ := mapM_ofRecord_eq_error_iff.1 hall
      exact absurd (h record hmem) hbad
    | ok sessions => exact ⟨sessions, rfl⟩

/-- A body is read all or nothing. The sessions that are read are those of the
    records, one for each and in their order, and a body is read exactly if it
    is an array of records. Otherwise there is an error and no list: either some
    item of the array, wherever it stands, is no record, or there is no array. -/
theorem readSessions_allOrNothing (body : String) :
    (∀ sessions, readSessions body = .ok sessions ↔
      ∃ records, Json.Value.parse body = .ok (.array records) ∧
        List.Forall₂ IsRecordOf records sessions) ∧
    ((∃ sessions, readSessions body = .ok sessions) ↔
      ∃ records, Json.Value.parse body = .ok (.array records) ∧
        ∀ record ∈ records, IsRecord record) ∧
    ∀ e, readSessions body = .error e ↔
      (e = .unavailable "session record without sessionId" ∧
        ∃ records, Json.Value.parse body = .ok (.array records) ∧
          ∃ record ∈ records, ¬IsRecord record) ∨
      (e = .unavailable "invalid session records" ∧
        ∀ records, Json.Value.parse body ≠ .ok (.array records)) := by
  by_cases harray : ∃ records, Json.Value.parse body = .ok (.array records)
  · obtain ⟨records, hparse⟩ := harray
    have honly {records' : List Json.Value} :
        Json.Value.parse body = .ok (.array records') ↔ records' = records := by
      rw [hparse]
      simp [eq_comm]
    rw [readSessions_of_array hparse]
    refine ⟨fun sessions => ?_, ?_, fun e => ?_⟩
    · simp [honly, mapM_ofRecord_eq_ok_iff]
    · simp [honly, exists_mapM_ofRecord_iff]
    · rw [mapM_ofRecord_eq_error_iff]
      simp [honly]
  · push Not at harray
    rw [readSessions_of_no_array harray]
    refine ⟨fun sessions => ?_, ?_, fun e => ?_⟩
    · simp [harray]
    · simp [harray]
    · simp [harray, eq_comm]

end Analytics

/-! ### Written records -/

namespace Session

open Json

/-- The record of a session. -/
def record (s : Session) : Value :=
  .object [("timestamp", .string s.timestamp),
    ("values", .object [("sessionId", .string s.id), ("userAgent", .string s.userAgent),
      ("remoteIp", .string s.ipAddress), ("serviceProvider", .string s.serviceProvider)])]

theorem isRecordOf_record (s : Session) : IsRecordOf s.record s := by
  rw [← ofRecord_eq_ok_iff, record, ofRecord_of_values rfl]
  rfl

theorem fits_record (room : Nat) (s : Session) : s.record.Fits (room + 2) := by
  refine .object fun m hm => ?_
  rcases List.mem_pair.1 hm with rfl | rfl
  · exact .string s.timestamp
  · exact Value.fits_strings room [("sessionId", s.id), ("userAgent", s.userAgent),
      ("remoteIp", s.ipAddress), ("serviceProvider", s.serviceProvider)]

end Session

namespace Analytics

open Json

/-- Written records are read again. -/
theorem parse_records (sessions : List Session) :
    Value.parse (Value.array (sessions.map Session.record)).render =
      .ok (.array (sessions.map Session.record)) := by
  refine Value.parse_written (.array fun v hv => ?_)
  obtain ⟨s, -, rfl⟩ := List.mem_map.1 hv
  exact s.fits_record _

end Analytics

end LoginGate
