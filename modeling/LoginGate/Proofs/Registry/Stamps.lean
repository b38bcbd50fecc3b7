import LoginGate.Proofs.Registry.Memory

/-!
# Stamped sessions

A store in memory stamps the sessions that are opened: it gives each of them an
id that was never used, and the time. Where the stamps come from is left open;
`stamps p n` is the one that `p` gets after `n` others. A store that has stamped
sessions is *sound* if it is still distinct, holds no session with a stamp that
is yet to come, and holds for everyone only sessions that are theirs, from the
first store or by their stamps.

Sound stores stay sound when sessions are opened and closed (`Sound.openSession`,
`Sound.terminate`), and what is done with the sessions of one principal leaves
those of the others alone (`Sound.live_terminate_of_mine`).
-/

namespace LoginGate

/-- What a session gets when it is opened. -/
structure Stamp where
  /-- The id of the session. -/
  id : String
  /-- The time of the opening. -/
  timestamp : String

/-- The stamps that each principal gets, in order. -/
abbrev Stamps := Principal → Nat → Stamp

namespace Stamps

/-- The ids of the stamps differ from one another and from those in a store, and
    none of them is blank. -/
structure Fresh (stamps : Stamps) (s : SessionStore) : Prop where
  /-- Different stamps have different ids. -/
  injective {p q : Principal} {n m : Nat} : (stamps p n).id = (stamps q m).id → p = q ∧ n = m
  /-- The ids are new to the store. -/
  unheld (p : Principal) (n : Nat) : ¬s.Holds (stamps p n).id
  /-- No id is blank. -/
  shown (p : Principal) (n : Nat) : Text.isBlankText (stamps p n).id = false

/-- The id is that of a session that the principal held at first, or of one of
    the principal's stamps. -/
def Mine (stamps : Stamps) (first : SessionStore) (p : Principal) (id : String) : Prop :=
  (∃ x ∈ first.live p, x.id = id) ∨ ∃ n, (stamps p n).id = id

/-- No id is of two principals. -/
theorem Fresh.apart {stamps : Stamps} {first : SessionStore} {p q : Principal} {id : String}
    (h : stamps.Fresh first) (hfirst : first.Distinct) (hp : stamps.Mine first p id)
    (hq : stamps.Mine first q id) : p = q := by
  rcases hp with ⟨x, hx, hid⟩ | ⟨n, hid⟩
  · rcases hq with ⟨y, hy, hid'⟩ | ⟨m, hid'⟩
    · exact hfirst.apart hx hy (hid.trans hid'.symm)
    · exact absurd ⟨p, x, hx, hid.trans hid'.symm⟩ (h.unheld q m)
  · rcases hq with ⟨y, hy, hid'⟩ | ⟨m, hid'⟩
    · exact absurd ⟨q, y, hy, hid'.trans hid.symm⟩ (h.unheld p n)
    · exact (h.injective (hid.trans hid'.symm)).1

end Stamps

/-- A store that stamps the sessions that are opened. -/
structure StampedStore where
  /-- The store. -/
  store : SessionStore
  /-- How many sessions of each principal were stamped. -/
  opened : Principal → Nat

namespace StampedStore

/-- The store that no session was stamped in. -/
def unstamped (first : SessionStore) : StampedStore := ⟨first, fun _ => 0⟩

/-- The store after a session was opened, with the next stamp of the principal. -/
def openSession (stamps : Stamps) (s : StampedStore) (p : Principal)
    (userAgent ipAddress serviceProvider : String) : StampedStore :=
  let stamp := stamps p (s.opened p)
  ⟨s.store.openSession p ⟨stamp.id, stamp.timestamp, userAgent, ipAddress, serviceProvider⟩,
    Function.update s.opened p (s.opened p + 1)⟩

/-- The store after a session was closed, if there was one with the id. -/
def terminate (s : StampedStore) (id : String) : StampedStore :=
  ⟨(s.store.terminate id).2, s.opened⟩

/-- The store after the oldest sessions of a principal were closed. -/
def trim (s : StampedStore) (limit : Nat) (p : Principal) : StampedStore :=
  ⟨s.store.trim limit p, s.opened⟩

/-- The store without the count of its stamps. -/
def part : Part StampedStore SessionStore where
  get s := s.store
  set store s := ⟨store, s.opened⟩

/-- The same of a state that has another part besides. -/
def beside (ρ : Type) : Part (StampedStore × ρ) SessionStore where
  get s := part.get s.1
  set store s := (part.set store s.1, s.2)

/-- Since the first store, nothing but stamped sessions was added. -/
structure Sound (stamps : Stamps) (first : SessionStore) (s : StampedStore) : Prop where
  /-- The sessions have different ids. -/
  distinct : s.store.Distinct
  /-- Stamps that are yet to come are not used. -/
  unheld {p : Principal} {n : Nat} : s.opened p ≤ n → ¬s.store.Holds (stamps p n).id
  /-- Everyone holds sessions of their own. -/
  mine {p : Principal} {x : Session} : x ∈ s.store.live p → stamps.Mine first p x.id

variable {stamps : Stamps} {first : SessionStore} {s : StampedStore} {p q : Principal}

theorem sound_unstamped (hfirst : first.Distinct) (h : stamps.Fresh first) :
    (unstamped first).Sound stamps first where
  distinct := hfirst
  unheld _ := h.unheld _ _
  mine hx := .inl ⟨_, hx, rfl⟩

/-- The sessions of the principal after one was opened. -/
theorem live_openSession (userAgent ipAddress serviceProvider : String) :
    (s.openSession stamps p userAgent ipAddress serviceProvider).store.live p =
      s.store.live p ++ [⟨(stamps p (s.opened p)).id, (stamps p (s.opened p)).timestamp,
        userAgent, ipAddress, serviceProvider⟩] := by
  rw [openSession, SessionStore.live_openSession, if_pos rfl]

theorem live_openSession_of_ne (h : q ≠ p) (userAgent ipAddress serviceProvider : String) :
    (s.openSession stamps p userAgent ipAddress serviceProvider).store.live q =
      s.store.live q := by
  rw [openSession, SessionStore.live_openSession, if_neg h.symm]

theorem count_openSession (userAgent ipAddress serviceProvider : String) :
    (s.openSession stamps p userAgent ipAddress serviceProvider).store.count p =
      s.store.count p + 1 := by
  rw [SessionStore.count, live_openSession, List.length_append]
  rfl

theorem opened_openSession (userAgent ipAddress serviceProvider : String) :
    (s.openSession stamps p userAgent ipAddress serviceProvider).opened p = s.opened p + 1 :=
  Function.update_self ..

theorem opened_openSession_of_ne (h : q ≠ p) (userAgent ipAddress serviceProvider : String) :
    (s.openSession stamps p userAgent ipAddress serviceProvider).opened q = s.opened q :=
  Function.update_of_ne h ..

theorem Sound.openSession (h : s.Sound stamps first) (hf : stamps.Fresh first) (p : Principal)
    (userAgent ipAddress serviceProvider : String) :
    (s.openSession stamps p userAgent ipAddress serviceProvider).Sound stamps first where
  distinct := h.distinct.openSession p (hf.shown p _) (h.unheld (Nat.le_refl _))
  unheld := by
    intro q n hn hheld
    -- Either the id was held before, or it is that of the new session.
    rcases SessionStore.holds_openSession_iff.1 hheld with hheld | hid
    · refine h.unheld (Nat.le_trans ?_ hn) hheld
      by_cases hq : q = p
      · subst hq
        rw [opened_openSession]
        exact Nat.le_succ _
      · exact Nat.le_of_eq (opened_openSession_of_ne hq ..).symm
    · obtain ⟨rfl, rfl⟩ := hf.injective hid
      rw [opened_openSession] at hn
      exact Nat.not_succ_le_self _ hn
  mine := by
    intro q x hx
    rcases SessionStore.mem_live_openSession_iff.1 hx with hx | ⟨rfl, rfl⟩
    · exact h.mine hx
    · exact .inr ⟨_, rfl⟩

theorem Sound.terminate (h : s.Sound stamps first) (id : String) :
    (s.terminate id).Sound stamps first where
  distinct := h.distinct.terminate id
  unheld hn hheld := h.unheld hn (h.distinct.holds_terminate_iff.1 hheld).1
  mine hx := h.mine (h.distinct.mem_live_terminate_iff.1 hx).1

theorem Sound.trim (h : s.Sound stamps first) (limit : Nat) (p : Principal) :
    (s.trim limit p).Sound stamps first :=
  SessionStore.trim_keeps (P := fun t => Sound stamps first ⟨t, s.opened⟩)
    (fun _ id ht => Sound.terminate ht id) limit h

/-- Closing a session of one principal leaves those of the others alone. -/
theorem Sound.live_terminate_of_mine (h : s.Sound stamps first) (hfirst : first.Distinct)
    (hf : stamps.Fresh first) {id : String} (hid : stamps.Mine first p id) (hq : q ≠ p) :
    (s.terminate id).store.live q = s.store.live q := by
  refine h.distinct.live_terminate_of_ne fun x hx hxid => ?_
  exact hq (hf.apart hfirst (h.mine hx) (hxid ▸ hid))

/-- Only the principal can hold a session of their own. -/
theorem Sound.holds_iff_of_mine (h : s.Sound stamps first) (hfirst : first.Distinct)
    (hf : stamps.Fresh first) {id : String} (hid : stamps.Mine first p id) :
    s.store.Holds id ↔ ∃ x ∈ s.store.live p, x.id = id := by
  constructor
  · rintro ⟨q, x, hx, rfl⟩
    obtain rfl := hf.apart hfirst (h.mine hx) hid
    exact ⟨x, hx, rfl⟩
  · rintro ⟨x, hx, hxid⟩
    exact ⟨p, x, hx, hxid⟩

end StampedStore

/-! ### Stamps without end -/

/-- Stamps whose ids are told apart by how many letters come before the first `b`,
    and by the principal behind it. -/
def letteredStamps : Stamps := fun p n =>
  ⟨String.ofList (List.replicate n 'a' ++ 'b' :: p.text.toList), ""⟩

theorem eq_of_lettered {n m : Nat} {l l' : List Char}
    (h : List.replicate n 'a' ++ 'b' :: l = List.replicate m 'a' ++ 'b' :: l') :
    n = m ∧ l = l' := by
  induction n generalizing m with
  | zero =>
    cases m with
    | zero => exact ⟨rfl, (List.cons.inj h).2⟩
    | succ m => cases (List.cons.inj h).1
  | succ n ih =>
    cases m with
    | zero => cases (List.cons.inj h).1
    | succ m =>
      obtain ⟨rfl, hl⟩ := ih (List.cons.inj h).2
      exact ⟨rfl, hl⟩

theorem mem_lettered (p : Principal) (n : Nat) : 'b' ∈ (letteredStamps p n).id.toList := by
  rw [letteredStamps, String.toList_ofList]
  exact List.mem_append_right _ List.mem_cons_self

theorem lettered_injective {p q : Principal} {n m : Nat}
    (h : (letteredStamps p n).id = (letteredStamps q m).id) : p = q ∧ n = m := by
  obtain ⟨p, hp⟩ := p
  obtain ⟨q, hq⟩ := q
  obtain ⟨rfl, htext⟩ := eq_of_lettered (String.ofList_injective h)
  obtain rfl := String.toList_injective htext
  exact ⟨rfl, rfl⟩

theorem not_blank_of_mem {c : Char} {s : String} (h : c ∈ s.toList)
    (hc : Text.isBlank c = false) : Text.isBlankText s = false := by
  rw [Text.isBlankText, List.all_eq_false]
  exact ⟨c, h, by simp [hc]⟩

/-- The stamps are fresh for a store if no id there has the letter `b`. -/
theorem fresh_letteredStamps {s : SessionStore} (h : ∀ id, s.Holds id → 'b' ∉ id.toList) :
    letteredStamps.Fresh s where
  injective := lettered_injective
  unheld p n hheld := h _ hheld (mem_lettered p n)
  shown p n := not_blank_of_mem (mem_lettered p n) (by decide)

end LoginGate
