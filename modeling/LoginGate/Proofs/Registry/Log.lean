import LoginGate.Proofs.Registry.Memory
import Mathlib.Data.List.Induction

/-!
# The log of a store

What a store in memory answers can be told from the log of what was done to it.
A session is live after some operations if it was opened in one of them and not
closed in a later one (`unclosed`), and everything that is answered is about the
live sessions, in the order of their opening (`answerAfter`).

The entries of a store may be looked through in any order, and in another one
each time (`Arrangement`). As sessions are opened with fresh ids, this cannot be
seen from outside (`store_follows_log`).
-/

namespace LoginGate

namespace SessionStore

/-! ### Operations -/

/-- What a store is asked to do. -/
inductive Operation where
  | openSession (p : Principal) (session : Session)
  | terminate (id : String)
  | count (p : Principal)
  | list (p : Principal)
deriving DecidableEq

/-- What a store answers. -/
inductive Answer where
  /-- The session has this id. -/
  | opened (id : String)
  /-- Whether there was a session to close. -/
  | terminated (found : Bool)
  | counted (sessions : Nat)
  | listed (sessions : List Session)
deriving DecidableEq

/-- The id of the session that an operation opens, if it opens one. -/
def Operation.openedId? : Operation → Option String
  | .openSession _ session => some session.id
  | _ => none

/-- What a store answers to an operation, and the store afterwards. -/
def perform : Operation → SessionStore → Answer × SessionStore
  | .openSession p session, s => (.opened session.id, s.openSession p session)
  | .terminate id, s => (.terminated (s.terminate id).1, (s.terminate id).2)
  | .count p, s => (.counted (s.count p), s)
  | .list p, s => (.listed (s.list p), s)

/-- How the entries of a store stand when an operation comes, given the number
    of operations before it. -/
structure Arrangement where
  /-- The store with its entries in another order. -/
  arrange : Nat → SessionStore → SessionStore
  /-- The entries are the same. -/
  perm (n : Nat) (s : SessionStore) : (arrange n s).sessions.entries.Perm s.sessions.entries

/-- What came of operations: the answers in order, and the store. -/
structure Served where
  /-- The answers. -/
  answers : List Answer
  /-- The store. -/
  store : SessionStore

/-- What comes of one more operation. -/
def serve (a : Arrangement) (k : Served) (op : Operation) : Served :=
  let r := (a.arrange k.answers.length k.store).perform op
  ⟨k.answers ++ [r.1], r.2⟩

/-- What comes of operations on a store that holds no session at first. -/
def served (a : Arrangement) (ops : List Operation) : Served := ops.foldl (serve a) ⟨[], empty⟩

/-! ### The log -/

/-- The sessions that were opened and not closed later, with whom they were
    opened for, in the order of their opening. -/
def unclosed : List Operation → List (Principal × Session)
  | [] => []
  | .openSession p session :: later =>
    if .terminate session.id ∈ later then unclosed later else (p, session) :: unclosed later
  | _ :: later => unclosed later

/-- The sessions of a principal that are live after operations. -/
def liveAfter (ops : List Operation) (p : Principal) : List Session :=
  ((unclosed ops).filter (·.1 = p)).map Prod.snd

/-- What the log tells to answer to an operation that comes after others. -/
def answerAfter (ops : List Operation) : Operation → Answer
  | .openSession _ session => .opened session.id
  | .terminate id => .terminated (decide (id ∈ (unclosed ops).map (·.2.id)))
  | .count p => .counted (liveAfter ops p).length
  | .list p => .listed ((liveAfter ops p).reverse.take sessionListLimit)

/-- The ids that sessions were opened with. -/
def openedIds (ops : List Operation) : List String := ops.filterMap Operation.openedId?

/-- Every session is opened with an id of its own, which is not blank. -/
structure FreshIds (ops : List Operation) : Prop where
  /-- No id is used twice. -/
  nodup : (openedIds ops).Nodup
  /-- No id is blank. -/
  shown : ∀ id ∈ openedIds ops, Text.isBlankText id = false

/-- What closing a session comes to: either the session with the id is taken
    from between those before and behind it and all others stay as they are, or
    nobody holds it and nothing is changed. -/
inductive Closing (s t : SessionStore) (id : String) : Bool → Prop
  | found {p : Principal} {x : Session} {l l' : List Session} :
    s.live p = l ++ x :: l' → x.id = id → t.live p = l ++ l' →
    (∀ q, q ≠ p → t.live q = s.live q) → Closing s t id true
  | missed : ¬s.Holds id → t.sessions.entries.Perm s.sessions.entries → Closing s t id false

variable {ops : List Operation} {a : Arrangement} {p : Principal} {x : Session} {id : String}

/-! ### The log after one more operation -/

theorem unclosed_openSession (ops : List Operation) (p : Principal) (x : Session) :
    unclosed (ops ++ [.openSession p x]) = unclosed ops ++ [(p, x)] := by
  induction ops with
  | nil => simp [unclosed]
  | cons op ops ih =>
    rcases op with ⟨q, y⟩ | _ | _ | _
    · rw [List.cons_append, unclosed, unclosed, ih]
      by_cases hy : Operation.terminate y.id ∈ ops <;> simp [hy]
    all_goals exact ih

theorem unclosed_terminate (ops : List Operation) (id : String) :
    unclosed (ops ++ [.terminate id]) = (unclosed ops).filter (·.2.id ≠ id) := by
  induction ops with
  | nil => rfl
  | cons op ops ih =>
    rcases op with ⟨q, y⟩ | _ | _ | _
    · rw [List.cons_append, unclosed, unclosed, ih]
      by_cases hid : y.id = id
      · subst hid
        by_cases hy : Operation.terminate y.id ∈ ops <;> simp [hy]
      · by_cases hy : Operation.terminate y.id ∈ ops <;> simp [hy, hid]
    all_goals exact ih

theorem unclosed_count (ops : List Operation) (p : Principal) :
    unclosed (ops ++ [.count p]) = unclosed ops := by
  induction ops with
  | nil => rfl
  | cons op ops ih =>
    rcases op with ⟨q, y⟩ | _ | _ | _
    · simp [unclosed, ih]
    all_goals exact ih

theorem unclosed_list (ops : List Operation) (p : Principal) :
    unclosed (ops ++ [.list p]) = unclosed ops := by
  induction ops with
  | nil => rfl
  | cons op ops ih =>
    rcases op with ⟨q, y⟩ | _ | _ | _
    · simp [unclosed, ih]
    all_goals exact ih

theorem openedIds_append (ops later : List Operation) :
    openedIds (ops ++ later) = openedIds ops ++ openedIds later := List.filterMap_append ..

theorem FreshIds.of_append {later : List Operation} (h : FreshIds (ops ++ later)) :
    FreshIds ops := by
  obtain ⟨hn, hs⟩ := h
  rw [openedIds_append] at hn hs
  exact ⟨hn.of_append_left, fun id hid => hs id (List.mem_append_left _ hid)⟩

/-- An id that is opened last was not opened before. -/
theorem FreshIds.not_mem (h : FreshIds (ops ++ [.openSession p x])) : x.id ∉ openedIds ops := by
  have hn := h.nodup
  rw [openedIds_append] at hn
  exact fun hmem => List.disjoint_of_nodup_append hn hmem (List.mem_singleton_self x.id)

theorem mem_openedIds_of_unclosed (h : id ∈ (unclosed ops).map (·.2.id)) : id ∈ openedIds ops := by
  induction ops with
  | nil => exact absurd h (by simp [unclosed])
  | cons op ops ih =>
    rcases op with ⟨q, y⟩ | _ | _ | _
    · have hopened : openedIds (.openSession q y :: ops) = y.id :: openedIds ops := rfl
      rw [hopened, List.mem_cons]
      rw [unclosed] at h
      split at h
      · exact .inr (ih h)
      · rcases List.mem_cons.1 h with h | h
        · exact .inl h
        · exact .inr (ih h)
    all_goals exact ih h

theorem mem_liveAfter_iff : x ∈ liveAfter ops p ↔ (p, x) ∈ unclosed ops := by
  rw [liveAfter, List.mem_map]
  constructor
  · rintro ⟨⟨q, y⟩, hmem, rfl⟩
    obtain ⟨hmem, hq⟩ := List.mem_filter.1 hmem
    have hqp : q = p := of_decide_eq_true hq
    exact hqp ▸ hmem
  · intro hmem
    exact ⟨(p, x), List.mem_filter.2 ⟨hmem, decide_eq_true rfl⟩, rfl⟩

/-! ### One operation -/

/-- The store holds the sessions that the log says are live. -/
structure Logs (s : SessionStore) (ops : List Operation) : Prop where
  /-- Everybody holds their live sessions. -/
  live (p : Principal) : s.live p = liveAfter ops p
  /-- All sessions have different ids. -/
  distinct : s.Distinct

section Logs

variable {s : SessionStore} (h : s.Logs ops)
include h

theorem Logs.holds_iff : s.Holds id ↔ id ∈ (unclosed ops).map (·.2.id) := by
  rw [List.mem_map]
  constructor
  · rintro ⟨p, x, hx, rfl⟩
    exact ⟨(p, x), mem_liveAfter_iff.1 (h.live p ▸ hx), rfl⟩
  · rintro ⟨⟨p, x⟩, hmem, rfl⟩
    exact ⟨p, x, h.live p ▸ mem_liveAfter_iff.2 hmem, rfl⟩

theorem Logs.arrange (a : Arrangement) (n : Nat) : (a.arrange n s).Logs ops := by
  have hlive (p : Principal) : (a.arrange n s).live p = s.live p := live_of_perm (a.perm n s) p
  exact ⟨fun p => (hlive p).trans (h.live p), h.distinct.of_live hlive⟩

/-- A store that holds the live sessions answers what the log tells. -/
theorem Logs.answer_eq (op : Operation) : (s.perform op).1 = answerAfter ops op := by
  cases op with
  | openSession p x => rfl
  | terminate id =>
    refine congrArg Answer.terminated (Bool.eq_iff_iff.2 ?_)
    rw [h.distinct.terminate_iff, h.holds_iff, decide_eq_true_iff]
  | count p => exact congrArg (fun l => Answer.counted l.length) (h.live p)
  | list p => exact congrArg (fun l => Answer.listed (l.reverse.take sessionListLimit)) (h.live p)

/-- A store goes on to hold the live sessions. -/
theorem Logs.perform {op : Operation} (hf : FreshIds (ops ++ [op])) :
    (s.perform op).2.Logs (ops ++ [op]) := by
  cases op with
  | openSession p x =>
    have hfresh : ¬s.Holds x.id :=
      fun hx => hf.not_mem (mem_openedIds_of_unclosed (h.holds_iff.1 hx))
    have hshown : Text.isBlankText x.id = false := by
      refine hf.shown x.id ?_
      rw [openedIds_append]
      exact List.mem_append_right _ (List.mem_singleton_self x.id)
    refine ⟨fun q => ?_, h.distinct.openSession p hshown hfresh⟩
    rw [liveAfter, unclosed_openSession]
    by_cases hpq : p = q <;> simp [SessionStore.perform, hpq, h.live q, liveAfter]
  | terminate id =>
    refine ⟨fun q => ?_, h.distinct.terminate id⟩
    -- Both filters leave the same sessions, in whichever order they are applied.
    rw [liveAfter, unclosed_terminate, List.filter_filter]
    refine (h.distinct.live_terminate id q).trans ?_
    rw [h.live, liveAfter, List.filter_map, List.filter_filter]
    refine congrArg (List.map Prod.snd) (List.filter_congr fun e _ => ?_)
    exact Bool.and_comm _ _
  | count p =>
    refine ⟨fun q => ?_, h.distinct⟩
    rw [liveAfter, unclosed_count]
    exact h.live q
  | list p =>
    refine ⟨fun q => ?_, h.distinct⟩
    rw [liveAfter, unclosed_list]
    exact h.live q

end Logs

/-- Closing a session of a distinct store takes exactly this session away. -/
theorem Distinct.closing {s : SessionStore} (h : s.Distinct) (id : String) :
    Closing s (s.terminate id).2 id (s.terminate id).1 := by
  by_cases hid : s.Holds id
  · rw [h.terminate_iff.2 hid]
    obtain ⟨p, x, hx, rfl⟩ := hid
    obtain ⟨l, l', hl⟩ := List.append_of_mem hx
    -- The sessions before and behind it have other ids.
    have hothers : ∀ y ∈ l ++ l', decide (y.id ≠ x.id) = true := by
      intro y hy
      have hn := h.nodup p
      rw [hl, List.map_append, List.map_cons, List.nodup_middle, List.nodup_cons,
        ← List.map_append] at hn
      rw [decide_eq_true_iff]
      intro hyx
      exact hn.1 (hyx ▸ List.mem_map_of_mem hy)
    refine .found hl rfl ?_ fun q hq => ?_
    · rw [h.live_terminate, hl, List.filter_append, List.filter_cons_of_neg (by simp),
        ← List.filter_append, List.filter_eq_self.2 hothers]
    · exact h.live_terminate_of_ne fun y hy hyx => hq (h.apart hy hx hyx)
  · rw [terminate_of_not_holds hid]
    exact .missed hid (.refl _)

theorem Closing.of_perm {s s' t : SessionStore} {found : Bool} (h : Closing s t id found)
    (hs : s.sessions.entries.Perm s'.sessions.entries) : Closing s' t id found := by
  have hlive (p : Principal) : s'.live p = s.live p := (live_of_perm hs p).symm
  cases h with
  | found hl hid ht hothers =>
    exact .found ((hlive _).trans hl) hid ht fun q hq => (hothers q hq).trans (hlive q).symm
  | missed hnone hperm =>
    refine .missed ?_ (hperm.trans hs)
    rintro ⟨p, x, hx, hid⟩
    exact hnone ⟨p, x, hlive p ▸ hx, hid⟩

theorem terminate_of_blank (s : SessionStore) (h : Text.isBlankText id = true) :
    s.terminate id = (false, s) := if_pos h

/-! ### All operations -/

theorem served_concat (a : Arrangement) (ops : List Operation) (op : Operation) :
    served a (ops ++ [op]) = serve a (served a ops) op := by
  rw [served, List.foldl_append]
  rfl

theorem logs_served (a : Arrangement) (h : FreshIds ops) : (served a ops).store.Logs ops := by
  induction ops using List.reverseRecOn with
  | nil => exact ⟨fun _ => rfl, distinct_empty⟩
  | append_singleton ops op ih =>
    rw [served_concat]
    exact ((ih h.of_append).arrange a _).perform h

theorem length_answers (a : Arrangement) (ops : List Operation) :
    (served a ops).answers.length = ops.length := by
  induction ops using List.reverseRecOn with
  | nil => rfl
  | append_singleton ops op ih => simp [served_concat, serve, ih]

theorem answers_concat (a : Arrangement) {op : Operation} (h : FreshIds (ops ++ [op])) :
    (served a (ops ++ [op])).answers = (served a ops).answers ++ [answerAfter ops op] := by
  have hlogs := (logs_served a h.of_append).arrange a (served a ops).answers.length
  rw [served_concat, serve, hlogs.answer_eq]

/-- Every operation is answered as the log of those before it tells. -/
theorem getElem?_answers (a : Arrangement) {before after : List Operation} {op : Operation}
    (h : FreshIds (before ++ op :: after)) :
    (served a (before ++ op :: after)).answers[before.length]? = some (answerAfter before op) := by
  induction after using List.reverseRecOn with
  | nil =>
    rw [answers_concat a h, ← length_answers a before, List.getElem?_concat_length]
  | append_singleton after op' ih =>
    -- Later answers come behind this one.
    rw [← List.cons_append, ← List.append_assoc] at h ⊢
    rw [answers_concat a h, List.getElem?_append_left, ih h.of_append]
    rw [length_answers, List.length_append, List.length_cons]
    omega

/-- After a session was closed, its id is one that was used and is live no longer. -/
theorem not_unclosed_of_terminated (a : Arrangement) (h : FreshIds ops)
    (hid : (.terminate id, .terminated true) ∈ ops.zip (served a ops).answers) :
    id ∈ openedIds ops ∧ id ∉ (unclosed ops).map (·.2.id) := by
  induction ops using List.reverseRecOn with
  | nil => cases hid
  | append_singleton ops op ih =>
    rw [answers_concat a h, List.zip_append (length_answers a ops).symm, List.mem_append] at hid
    rw [openedIds_append]
    rcases hid with hid | hid
    · obtain ⟨hopened, hclosed⟩ := ih h.of_append hid
      refine ⟨List.mem_append_left _ hopened, ?_⟩
      cases op with
      | openSession p x =>
        rw [unclosed_openSession, List.map_append, List.mem_append, not_or]
        refine ⟨hclosed, fun hx => h.not_mem ?_⟩
        have hxid : id = x.id := List.mem_singleton.1 hx
        exact hxid ▸ hopened
      | terminate id' =>
        rw [unclosed_terminate]
        exact fun hmem => hclosed ((List.filter_sublist.map _).subset hmem)
      | count p => rwa [unclosed_count]
      | list p => rwa [unclosed_list]
    · obtain ⟨rfl, hfound⟩ := Prod.mk.inj (List.mem_singleton.1 hid)
      have hmem : id ∈ (unclosed ops).map (·.2.id) :=
        of_decide_eq_true (Answer.terminated.inj hfound).symm
      refine ⟨List.mem_append_left _ (mem_openedIds_of_unclosed hmem), ?_⟩
      rw [unclosed_terminate]
      simp

/-- No session is closed twice. -/
theorem count_terminated_le_one (a : Arrangement) (h : FreshIds ops) (id : String) :
    (ops.zip (served a ops).answers).count (.terminate id, .terminated true) ≤ 1 := by
  induction ops using List.reverseRecOn with
  | nil => exact Nat.zero_le _
  | append_singleton ops op ih =>
    rw [answers_concat a h, List.zip_append (length_answers a ops).symm, List.count_append]
    have hlast : ([op].zip [answerAfter ops op]).count (.terminate id, .terminated true) ≤ 1 :=
      List.count_le_length
    by_cases hid : (.terminate id, .terminated true) ∈ ops.zip (served a ops).answers
    · -- The session is gone, so it is not found again.
      have hgone := (not_unclosed_of_terminated a h.of_append hid).2
      have hnot : (.terminate id, .terminated true) ∉ [op].zip [answerAfter ops op] := by
        intro hmem
        obtain ⟨rfl, hfound⟩ := Prod.mk.inj (List.mem_singleton.1 hmem)
        exact hgone (of_decide_eq_true (Answer.terminated.inj hfound).symm)
      rw [List.count_eq_zero.2 hnot]
      exact ih h.of_append
    · rw [List.count_eq_zero.2 hid]
      omega

/-- If every session is opened with an id of its own that is not blank, a store
    answers what the log of its operations tells, however its entries are
    arranged. Everybody holds the sessions that were opened for them and not
    closed later, in the order of opening. Closing takes exactly the session with
    the id, or there is none, as for any blank id, and nothing is changed; and no
    session is closed twice. -/
theorem store_follows_log (a : Arrangement) {ops : List Operation} (h : FreshIds ops) :
    (served a ops).answers.length = ops.length ∧
      (∀ before op after, ops = before ++ op :: after →
        (served a ops).answers[before.length]? = some (answerAfter before op)) ∧
      (∀ p, (served a ops).store.live p = liveAfter ops p) ∧
      (∀ before id after, ops = before ++ .terminate id :: after →
        ∃ found, (served a ops).answers[before.length]? = some (.terminated found) ∧
          Closing (served a before).store (served a (before ++ [.terminate id])).store id found ∧
          (Text.isBlankText id = true → found = false)) ∧
      (∀ id, (ops.zip (served a ops).answers).count (.terminate id, .terminated true) ≤ 1) ∧
      ∀ a' : Arrangement, (served a' ops).answers = (served a ops).answers := by
  refine ⟨length_answers a ops, ?_, (logs_served a h).live, ?_, count_terminated_le_one a h,
    fun a' => ?_⟩
  · rintro before op after rfl
    exact getElem?_answers a h
  · rintro before id after rfl
    -- The store as it stands when the session is to be closed.
    let s := a.arrange (served a before).answers.length (served a before).store
    have hlogs : s.Logs before := (logs_served a h.of_append).arrange a _
    refine ⟨(s.terminate id).1, ?_, ?_, fun hblank => ?_⟩
    · rw [getElem?_answers a h, ← hlogs.answer_eq]
      rfl
    · rw [served_concat]
      exact (hlogs.distinct.closing id).of_perm (a.perm _ _)
    · rw [terminate_of_blank _ hblank]
  · induction ops using List.reverseRecOn with
    | nil => rfl
    | append_singleton ops op ih => rw [answers_concat a' h, answers_concat a h, ih h.of_append]

/-- The entries from the last to the first. -/
def Arrangement.backwards : Arrangement where
  arrange _ s :=
    ⟨s.sessions.entries.reverse, by
      rw [List.map_reverse]
      exact List.nodup_reverse.2 s.sessions.distinct⟩
  perm _ s := s.sessions.entries.reverse_perm

theorem alice_not_blank : Text.isBlankText "alice" = false := by decide

theorem bob_not_blank : Text.isBlankText "bob" = false := by decide

/-- Two principals log in, and one of them twice; then one session is closed, again
    and again. -/
def someLogins : List Operation :=
  [.openSession ⟨"alice", alice_not_blank⟩ ⟨"1", "10", "curl", "::1", "mail"⟩,
    .openSession ⟨"bob", bob_not_blank⟩ ⟨"2", "11", "curl", "::1", "mail"⟩,
    .openSession ⟨"alice", alice_not_blank⟩ ⟨"3", "12", "curl", "::1", "news"⟩,
    .terminate "1", .terminate "1", .terminate " ", .count ⟨"alice", alice_not_blank⟩,
    .list ⟨"alice", alice_not_blank⟩]

/-- The answers are the same from any arrangement. -/
theorem answers_of_someLogins :
    FreshIds someLogins ∧ ∀ a : Arrangement, (served a someLogins).answers =
      [.opened "1", .opened "2", .opened "3", .terminated true, .terminated false,
        .terminated false, .counted 1, .listed [⟨"3", "12", "curl", "::1", "news"⟩]] := by
  have hfresh : FreshIds someLogins := ⟨by decide, by decide⟩
  obtain ⟨-, -, -, -, -, hsame⟩ := store_follows_log .backwards hfresh
  refine ⟨hfresh, fun a => ?_⟩
  rw [hsame a]
  decide

end SessionStore

end LoginGate
