import LoginGate.Api.Decision
import LoginGate.Api.Sessions
import LoginGate.Proofs.Registry.Record

/-!
# What bodies say

The bodies of responses are JSON texts, and what they say is what a client reads
in them: a decision, for a principal and a limit (`Decides`), or the sessions of a
principal (`Lists`). Members are looked up by their keys, in whatever order they
stand and whatever others there are.

* `decides_decision`: the body with a decision says it;
* `lists_sessionList`: the body with a list of sessions says what they are, and
  says nothing else (`Lists.unique`).
-/

namespace LoginGate.Api

open Json

/-- The text says of a principal whether so many sessions leave room within a limit. -/
def Decides (text : String) (principal : Principal) (limit : SessionLimit) (count : Nat) : Prop :=
  ∃ v, Value.parse text = .ok v ∧ v.Has "principal" (.string principal.text) ∧
    v.Has "withinLimit" (.bool (decide (count < limit.value))) ∧
    v.Has "sessionLimit" (.number (.natural limit.value))

/-- The document shows the fields of the session. -/
structure ShowsSession (v : Value) (session : Session) : Prop where
  /-- It has the id. -/
  id : v.Has "sessionID" (.string session.id)
  /-- It has the time. -/
  timestamp : v.Has "timestamp" (.string session.timestamp)
  /-- It has the program. -/
  userAgent : v.Has "userAgent" (.string session.userAgent)
  /-- It has the address. -/
  ipAddress : v.Has "ipAddress" (.string session.ipAddress)
  /-- It has the service. -/
  serviceProvider : v.Has "serviceProvider" (.string session.serviceProvider)

/-- The text shows the sessions, in their order, and no others. -/
def Lists (text : String) (sessions : List Session) : Prop :=
  ∃ v items, Value.parse text = .ok v ∧ v.Has "sessions" (.array items) ∧
    List.Forall₂ ShowsSession items sessions

/-- A document shows the fields of one session at most. -/
theorem ShowsSession.unique {v : Value} {x x' : Session} (h : ShowsSession v x)
    (h' : ShowsSession v x') : x = x' := by
  cases x
  cases x'
  rw [Session.mk.injEq]
  exact ⟨Value.string.inj (h.id.unique h'.id), Value.string.inj (h.timestamp.unique h'.timestamp),
    Value.string.inj (h.userAgent.unique h'.userAgent),
    Value.string.inj (h.ipAddress.unique h'.ipAddress),
    Value.string.inj (h.serviceProvider.unique h'.serviceProvider)⟩

/-- A text lists one list of sessions at most. -/
theorem Lists.unique {text : String} {sessions sessions' : List Session}
    (h : Lists text sessions) (h' : Lists text sessions') : sessions = sessions' := by
  have hshows : Relator.RightUnique ShowsSession := fun _ _ _ => ShowsSession.unique
  obtain ⟨v, items, hparse, hitems, hall⟩ := h
  obtain ⟨v', items', hparse', hitems', hall'⟩ := h'
  obtain rfl := Except.ok.inj (hparse.symm.trans hparse')
  obtain rfl := Value.array.inj (hitems.unique hitems')
  exact hshows.forall₂ hall hall'

theorem decides_decision (principal : Principal) (limit : SessionLimit) (count : Nat) :
    Decides (decision principal limit (decide (count < limit.value))).render principal limit
      count := by
  have hfits : (decision principal limit (decide (count < limit.value))).Fits Reader.levels := by
    have hword : limit.value < Word.size64 := Nat.lt_trans limit.lt_word (by decide)
    refine .object fun m hm => ?_
    simp only [List.mem_cons, List.not_mem_nil, or_false] at hm
    rcases hm with rfl | rfl | rfl
    · exact .string principal.text
    · exact .bool _
    · exact .number (.natural hword)
  exact ⟨_, Value.parse_written hfits, Value.get?_eq_some_iff.1 rfl, Value.get?_eq_some_iff.1 rfl,
    Value.get?_eq_some_iff.1 rfl⟩

theorem showsSession_toJson (session : Session) : ShowsSession session.toJson session where
  id := Value.get?_eq_some_iff.1 rfl
  timestamp := Value.get?_eq_some_iff.1 rfl
  userAgent := Value.get?_eq_some_iff.1 rfl
  ipAddress := Value.get?_eq_some_iff.1 rfl
  serviceProvider := Value.get?_eq_some_iff.1 rfl

theorem lists_sessionList (sessions : List Session) :
    Lists (sessionList sessions).render sessions := by
  have hfits : (sessionList sessions).Fits Reader.levels := by
    refine .object fun m hm => ?_
    obtain rfl := List.mem_singleton.1 hm
    refine .array fun v hv => ?_
    obtain ⟨s, -, rfl⟩ := List.mem_map.1 hv
    exact Value.fits_strings _ [("sessionID", s.id), ("timestamp", s.timestamp),
      ("userAgent", s.userAgent), ("ipAddress", s.ipAddress),
      ("serviceProvider", s.serviceProvider)]
  refine ⟨_, _, Value.parse_written hfits, Value.get?_eq_some_iff.1 rfl, ?_⟩
  exact List.forall₂_map_left_iff.2 (List.forall₂_same.2 fun s _ => showsSession_toJson s)

end LoginGate.Api
