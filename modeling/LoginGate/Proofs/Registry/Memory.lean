import LoginGate.Registry.Memory
import Mathlib.Data.List.Nodup

/-!
# The sessions in memory

A store is *distinct* if no two of its sessions have the same id, whoever they
are held by, and no id is blank. Then it does not matter in which order its
entries are looked through for a session: closing one takes the sessions with
its id away from everybody, which is that one session and no other
(`live_terminate`). Stores stay distinct as long as sessions are opened with
fresh ids (`Distinct.openSession`, `Distinct.terminate`).

As nothing but the session with the id is closed, whoever closes the oldest of
the listed sessions leaves the newest, and those that are not listed because
there are too many (`Distinct.live_trim`). This makes room for a new session if
all were listed (`Distinct.count_trim_lt`).
-/

namespace LoginGate

namespace SessionStore

variable {s : SessionStore} {p q : Principal} {x y : Session} {id : String}

/-! ### Looking for a session -/

/-- Somebody holds a session with this id. -/
def Holds (s : SessionStore) (id : String) : Prop := ∃ p, ∃ x ∈ s.live p, x.id = id

theorem mem_live_iff : x ∈ s.live p ↔ ∃ held, (p, held) ∈ s.sessions.entries ∧ x ∈ held := by
  rw [live]
  cases h : s.sessions.get? p with
  | none =>
    refine ⟨fun hx => absurd hx (by simp), ?_⟩
    rintro ⟨held, hmem, -⟩
    rw [Dictionary.get?_eq_some_iff.2 hmem] at h
    cases h
  | some held =>
    constructor
    · intro hx
      exact ⟨held, Dictionary.get?_eq_some_iff.1 h, hx⟩
    · rintro ⟨held', hmem, hx⟩
      obtain rfl := Option.some.inj ((Dictionary.get?_eq_some_iff.2 hmem).symm.trans h)
      exact hx

/-- The sessions of a principal do not depend on the order of the entries. -/
theorem live_of_perm {t : SessionStore} (h : s.sessions.entries.Perm t.sessions.entries)
    (p : Principal) : s.live p = t.live p := by
  rw [live, live, Dictionary.get?_of_perm h]

theorem holder?_eq_none_iff {l : List (Principal × List Session)} :
    holder? id l = none ↔ ∀ e ∈ l, ∀ x ∈ e.2, x.id ≠ id := by
  induction l with
  | nil => simp [holder?]
  | cons e l ih =>
    obtain ⟨p, held⟩ := e
    rw [holder?, List.forall_mem_cons]
    by_cases h : held.any (·.id == id) = true
    · rw [if_pos h]
      obtain ⟨x, hx, hid⟩ := List.any_eq_true.1 h
      refine ⟨nofun, fun hall => absurd (beq_iff_eq.1 hid) (hall.1 x hx)⟩
    · rw [if_neg h, ih, iff_and_self]
      intro _ x hx hid
      exact h (List.any_eq_true.2 ⟨x, hx, beq_iff_eq.2 hid⟩)

theorem exists_of_holder? {l : List (Principal × List Session)} (h : holder? id l = some p) :
    ∃ held, (p, held) ∈ l ∧ ∃ x ∈ held, x.id = id := by
  induction l with
  | nil => cases h
  | cons e l ih =>
    obtain ⟨q, held⟩ := e
    rw [holder?] at h
    by_cases hany : held.any (·.id == id) = true
    · rw [if_pos hany] at h
      obtain rfl := Option.some.inj h
      obtain ⟨x, hx, hid⟩ := List.any_eq_true.1 hany
      exact ⟨held, List.mem_cons_self, x, hx, beq_iff_eq.1 hid⟩
    · rw [if_neg hany] at h
      obtain ⟨held', hmem, hx⟩ := ih h
      exact ⟨held', List.mem_cons_of_mem _ hmem, hx⟩

/-- An id that nobody holds is not found, and nothing is changed. -/
theorem terminate_of_not_holds (h : ¬s.Holds id) : s.terminate id = (false, s) := by
  have hnone : holder? id s.sessions.entries = none := by
    rw [holder?_eq_none_iff]
    rintro ⟨p, held⟩ hmem x hx hid
    exact h ⟨p, x, mem_live_iff.2 ⟨held, hmem, hx⟩, hid⟩
  rw [terminate, hnone, ite_self]

/-! ### Distinct stores -/

/-- All sessions have different ids, and none of them is blank. -/
structure Distinct (s : SessionStore) : Prop where
  /-- Nobody holds two sessions with one id. -/
  nodup (p : Principal) : ((s.live p).map Session.id).Nodup
  /-- Sessions of different principals have different ids. -/
  apart {p q : Principal} {x y : Session} : x ∈ s.live p → y ∈ s.live q → x.id = y.id → p = q
  /-- No session has a blank id. -/
  shown {p : Principal} {x : Session} : x ∈ s.live p → Text.isBlankText x.id = false

theorem distinct_empty : empty.Distinct where
  nodup _ := List.nodup_nil
  apart hx := absurd hx List.not_mem_nil
  shown hx := absurd hx List.not_mem_nil

theorem eraseP_eq_filter {l : List Session} (h : (l.map Session.id).Nodup) (id : String) :
    l.eraseP (·.id == id) = l.filter (·.id ≠ id) := by
  induction l with
  | nil => rfl
  | cons x l ih =>
    obtain ⟨hx, hl⟩ := List.nodup_cons.1 h
    by_cases hid : x.id = id
    · -- The sessions behind the first one with the id have others.
      have hrest : ∀ y ∈ l, decide (y.id ≠ id) = true := by
        intro y hy
        rw [decide_eq_true_iff]
        rintro rfl
        exact hx (hid ▸ List.mem_map_of_mem hy)
      rw [List.filter_cons_of_neg (by simp [hid]), List.filter_eq_self.2 hrest, List.eraseP_cons,
        beq_iff_eq.2 hid, cond_true]
    · rw [List.filter_cons_of_pos (by simp [hid]), ← ih hl, List.eraseP_cons,
        beq_eq_false_iff_ne.2 hid, cond_false]

section Distinct

variable (h : s.Distinct)
include h

/-- Closing a session that somebody holds takes it away from its holder. -/
theorem Distinct.terminate_of_mem (hx : x ∈ s.live p) :
    s.terminate x.id =
      (true, ⟨s.sessions.insert p ((s.live p).eraseP (·.id == x.id))⟩) := by
  have hp : holder? x.id s.sessions.entries = some p := by
    cases hq : holder? x.id s.sessions.entries with
    | none =>
      obtain ⟨held, hmem, hx⟩ := mem_live_iff.1 hx
      exact absurd rfl (holder?_eq_none_iff.1 hq _ hmem x hx)
    | some q =>
      -- Whoever is found first holds a session with the id, and only `p` does.
      obtain ⟨held, hmem, y, hy, hid⟩ := exists_of_holder? hq
      rw [h.apart (mem_live_iff.2 ⟨held, hmem, hy⟩) hx hid]
  rw [SessionStore.terminate, h.shown hx, hp]
  rfl

/-- Closing succeeds if and only if somebody holds the session. -/
theorem Distinct.terminate_iff : (s.terminate id).1 = true ↔ s.Holds id := by
  constructor
  · intro hfound
    by_contra hno
    rw [terminate_of_not_holds hno] at hfound
    cases hfound
  · rintro ⟨p, x, hx, rfl⟩
    rw [h.terminate_of_mem hx]

/-- Closing takes the sessions with the id away from everybody, and leaves all
    others where they are. -/
theorem Distinct.live_terminate (id : String) (q : Principal) :
    (s.terminate id).2.live q = (s.live q).filter (·.id ≠ id) := by
  by_cases hid : s.Holds id
  · obtain ⟨p, x, hx, rfl⟩ := hid
    rw [h.terminate_of_mem hx]
    by_cases hpq : p = q
    · subst hpq
      rw [← eraseP_eq_filter (h.nodup p)]
      simp [live]
    · have hall : ∀ y ∈ s.live q, decide (y.id ≠ x.id) = true := by
        intro y hy
        rw [decide_eq_true_iff]
        exact fun hyx => hpq (h.apart hy hx hyx).symm
      rw [List.filter_eq_self.2 hall]
      simp [live, hpq]
  · rw [terminate_of_not_holds hid, List.filter_eq_self.2]
    intro x hx
    rw [decide_eq_true_iff]
    exact fun hxid => hid ⟨q, x, hx, hxid⟩

theorem Distinct.live_terminate_of_ne (hne : ∀ x ∈ s.live p, x.id ≠ id) :
    (s.terminate id).2.live p = s.live p := by
  rw [h.live_terminate, List.filter_eq_self]
  exact fun x hx => decide_eq_true (hne x hx)

theorem Distinct.mem_live_terminate_iff :
    x ∈ (s.terminate id).2.live p ↔ x ∈ s.live p ∧ x.id ≠ id := by
  rw [h.live_terminate, List.mem_filter, decide_eq_true_iff]

theorem Distinct.terminate (id : String) : (s.terminate id).2.Distinct where
  nodup p := by
    rw [h.live_terminate]
    exact (h.nodup p).sublist (List.filter_sublist.map _)
  apart hx hy := h.apart (h.mem_live_terminate_iff.1 hx).1 (h.mem_live_terminate_iff.1 hy).1
  shown hx := h.shown (h.mem_live_terminate_iff.1 hx).1

theorem Distinct.holds_terminate_iff {id' : String} :
    (s.terminate id).2.Holds id' ↔ s.Holds id' ∧ id' ≠ id := by
  constructor
  · rintro ⟨p, x, hx, rfl⟩
    obtain ⟨hx, hne⟩ := h.mem_live_terminate_iff.1 hx
    exact ⟨⟨p, x, hx, rfl⟩, hne⟩
  · rintro ⟨⟨p, x, hx, rfl⟩, hne⟩
    exact ⟨p, x, h.mem_live_terminate_iff.2 ⟨hx, hne⟩, rfl⟩

/-- A store does not matter beyond the sessions that everybody holds. -/
theorem Distinct.of_live {t : SessionStore} (ht : ∀ p, t.live p = s.live p) : t.Distinct where
  nodup p := ht p ▸ h.nodup p
  apart hx hy := h.apart (ht _ ▸ hx) (ht _ ▸ hy)
  shown hx := h.shown (ht _ ▸ hx)

end Distinct

theorem mem_live_openSession_iff :
    y ∈ (s.openSession p x).live q ↔ y ∈ s.live q ∨ (p = q ∧ y = x) := by
  rw [live_openSession]
  by_cases hpq : p = q <;> simp [hpq]

theorem holds_openSession_iff : (s.openSession p x).Holds id ↔ s.Holds id ∨ x.id = id := by
  constructor
  · rintro ⟨q, y, hy, rfl⟩
    rcases mem_live_openSession_iff.1 hy with hy | ⟨-, rfl⟩
    · exact .inl ⟨q, y, hy, rfl⟩
    · exact .inr rfl
  · rintro (⟨q, y, hy, rfl⟩ | rfl)
    · exact ⟨q, y, mem_live_openSession_iff.2 (.inl hy), rfl⟩
    · exact ⟨p, x, mem_live_openSession_iff.2 (.inr ⟨rfl, rfl⟩), rfl⟩

/-- A store stays distinct when a session is opened with a fresh id. -/
theorem Distinct.openSession (h : s.Distinct) (p : Principal)
    (hshown : Text.isBlankText x.id = false) (hfresh : ¬s.Holds x.id) :
    (s.openSession p x).Distinct where
  nodup q := by
    rw [live_openSession]
    by_cases hpq : p = q
    · rw [if_pos hpq, List.map_append, List.map_singleton]
      refine (h.nodup q).append (List.nodup_singleton _) ?_
      rw [List.disjoint_singleton]
      intro hmem
      obtain ⟨y, hy, hid⟩ := List.mem_map.1 hmem
      exact hfresh ⟨q, y, hy, hid⟩
    · rw [if_neg hpq]
      exact h.nodup q
  apart := by
    intro q r y z hy hz hid
    rw [mem_live_openSession_iff] at hy hz
    rcases hy with hy | ⟨rfl, rfl⟩
    · rcases hz with hz | ⟨rfl, rfl⟩
      · exact h.apart hy hz hid
      · exact absurd ⟨q, y, hy, hid⟩ hfresh
    · rcases hz with hz | ⟨rfl, -⟩
      · exact absurd ⟨r, z, hz, hid.symm⟩ hfresh
      · rfl
  shown := by
    intro q y hy
    rcases mem_live_openSession_iff.1 hy with hy | ⟨-, rfl⟩
    · exact h.shown hy
    · exact hshown

/-! ### Closing the oldest sessions -/

/-- Closes sessions out of a list, in order, as long as the list holds at least
    `limit` of them. -/
def closeOldest (limit : Nat) : List Session → SessionStore → SessionStore
  | [], s => s
  | x :: later, s =>
    if limit ≤ (x :: later).length then closeOldest limit later (s.terminate x.id).2 else s

/-- Lists the sessions of a principal, and closes the oldest ones while the list
    holds at least `limit`. -/
def trim (s : SessionStore) (limit : Nat) (p : Principal) : SessionStore :=
  closeOldest limit (s.list p).reverse s

/-- What closing a session preserves, trimming preserves too. -/
theorem trim_keeps {P : SessionStore → Prop} (hP : ∀ s id, P s → P (s.terminate id).2)
    (limit : Nat) (h : P s) : P (s.trim limit p) := by
  suffices hclose : ∀ listed, ∀ t, P t → P (closeOldest limit listed t) from hclose _ s h
  intro listed
  induction listed with
  | nil => exact fun _ ht => ht
  | cons x later ih =>
    intro t ht
    rw [closeOldest]
    split
    · exact ih _ (hP t x.id ht)
    · exact ht

/-- Closing a session leaves those before and behind it. -/
theorem Distinct.live_terminate_between (h : s.Distinct) {before later : List Session}
    (hs : s.live p = before ++ x :: later) : (s.terminate x.id).2.live p = before ++ later := by
  have hn := h.nodup p
  rw [hs, List.map_append, List.map_cons, List.nodup_append] at hn
  have hbefore : ∀ y ∈ before, ¬(y.id == x.id) = true := by
    intro y hy hid
    exact hn.2.2 _ (List.mem_map_of_mem hy) _ List.mem_cons_self (beq_iff_eq.1 hid)
  rw [h.live_terminate, ← eraseP_eq_filter (h.nodup p), hs, List.eraseP_append_right _ hbefore,
    List.eraseP_cons_of_pos (by simp)]

/-- The sessions that are closed are the first of the list, so that the others on
    it are fewer than the limit. -/
theorem Distinct.live_closeOldest {limit : Nat} (hlimit : 0 < limit) {unlisted : List Session}
    (listed : List Session) (h : s.Distinct) (hs : s.live p = unlisted ++ listed) :
    (closeOldest limit listed s).live p =
      unlisted ++ listed.drop (listed.length - (limit - 1)) := by
  induction listed generalizing s with
  | nil => rw [closeOldest, hs, List.drop_nil]
  | cons x later ih =>
    rw [closeOldest]
    split
    · next hlen =>
      have hdrop : (x :: later).length - (limit - 1) = later.length - (limit - 1) + 1 := by
        rw [List.length_cons] at hlen ⊢
        omega
      -- What is not listed stays in front of the shorter list.
      rw [ih (h.terminate x.id) (h.live_terminate_between hs), hdrop, List.drop_succ_cons]
    · next hlen =>
      have hdrop : (x :: later).length - (limit - 1) = 0 := by omega
      rw [hs, hdrop, List.drop_zero]

/-- Trimming closes the oldest of the sessions that a listing holds, until those
    that are left on the list are fewer than the limit. -/
theorem Distinct.live_trim (h : s.Distinct) {limit : Nat} (hlimit : 0 < limit) (p : Principal) :
    (s.trim limit p).live p = (s.live p).take (s.count p - sessionListLimit) ++
      (s.live p).drop (s.count p - sessionListLimit +
        (min (s.count p) sessionListLimit - (limit - 1))) := by
  have hlist : (s.list p).reverse = (s.live p).drop (s.count p - sessionListLimit) := by
    rw [list, List.reverse_take, List.reverse_reverse, List.length_reverse, count]
  have hlive : s.live p = (s.live p).take (s.count p - sessionListLimit) ++
      (s.live p).drop (s.count p - sessionListLimit) := (List.take_append_drop _ _).symm
  have hlength : ((s.live p).drop (s.count p - sessionListLimit)).length =
      min (s.count p) sessionListLimit := by
    rw [List.length_drop, ← count]
    omega
  rw [trim, hlist, h.live_closeOldest hlimit _ hlive, hlength, List.drop_drop]

/-- Trimming leaves room for a session within the limit, unless there are more
    sessions than a listing holds. -/
theorem Distinct.count_trim_lt (h : s.Distinct) {limit : Nat} (hlimit : 0 < limit)
    (hcount : s.count p ≤ sessionListLimit) : (s.trim limit p).count p < limit := by
  rw [count, h.live_trim hlimit, Nat.sub_eq_zero_of_le hcount, List.take_zero, List.nil_append,
    List.length_drop, ← count]
  omega

end SessionStore

end LoginGate
