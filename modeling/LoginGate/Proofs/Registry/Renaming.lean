import LoginGate.Proofs.Registry.Stamps

/-!
# Renaming sessions

The ids that sessions are stamped with do not matter, as long as they are fresh.
Two stores that start with the same sessions and stamp new ones with different
ids hold the same sessions of a principal up to the ids (`Tracks`), whatever is
done with the sessions of the principal in both of them, and whatever happens to
those of others in only one of them (`Spares`).
-/

namespace LoginGate

/-- The session with its id renamed. -/
def Session.rename (f : String → String) (x : Session) : Session := { x with id := f x.id }

/-- Two ways to stamp sessions, with ids that are renamed in the second one. The
    sessions that are there at first keep their ids. -/
structure Renaming (first : SessionStore) where
  /-- The new name of an id. -/
  rename : String → String
  /-- The stamps. -/
  stamps : Stamps
  /-- The stamps with renamed ids. -/
  stamps' : Stamps
  distinct : first.Distinct
  fresh : stamps.Fresh first
  fresh' : stamps'.Fresh first
  /-- Sessions that are there at first keep their ids. -/
  held {p : Principal} {x : Session} : x ∈ first.live p → rename x.id = x.id
  /-- New sessions get renamed ids. -/
  stamp (p : Principal) (n : Nat) : stamps' p n = ⟨rename (stamps p n).id, (stamps p n).timestamp⟩

namespace Renaming

/-- No id is renamed, and both stores stamp sessions alike. -/
def same {first : SessionStore} (distinct : first.Distinct) (stamps : Stamps)
    (fresh : stamps.Fresh first) : Renaming first where
  rename id := id
  stamps := stamps
  stamps' := stamps
  distinct := distinct
  fresh := fresh
  fresh' := fresh
  held _ := rfl
  stamp _ _ := rfl

variable {first : SessionStore} (r : Renaming first) {p q : Principal} {id id' : String}

theorem mine (h : r.stamps.Mine first p id) : r.stamps'.Mine first p (r.rename id) := by
  rcases h with ⟨x, hx, rfl⟩ | ⟨n, rfl⟩
  · exact .inl ⟨x, hx, (r.held hx).symm⟩
  · exact .inr ⟨n, congrArg Stamp.id (r.stamp p n)⟩

/-- Different ids of a principal are renamed differently. -/
theorem injective (h : r.stamps.Mine first p id) (h' : r.stamps.Mine first p id')
    (he : r.rename id = r.rename id') : id = id' := by
  have hstamp (n : Nat) : (r.stamps' p n).id = r.rename (r.stamps p n).id :=
    congrArg Stamp.id (r.stamp p n)
  rcases h with ⟨x, hx, rfl⟩ | ⟨n, rfl⟩
  · rcases h' with ⟨y, hy, rfl⟩ | ⟨m, rfl⟩
    · rwa [r.held hx, r.held hy] at he
    · rw [r.held hx, ← hstamp] at he
      exact absurd ⟨p, x, hx, he⟩ (r.fresh'.unheld p m)
  · rcases h' with ⟨y, hy, rfl⟩ | ⟨m, rfl⟩
    · rw [r.held hy, ← hstamp] at he
      exact absurd ⟨p, y, hy, he.symm⟩ (r.fresh'.unheld p n)
    · rw [← hstamp, ← hstamp] at he
      rw [(r.fresh'.injective he).2]

/-- The second store holds the sessions of `p` that the first one holds, with
    renamed ids, and both have stamped as many. -/
structure Tracks (p : Principal) (s t : StampedStore) : Prop where
  /-- The sessions are the same, renamed. -/
  live : t.store.live p = (s.store.live p).map (Session.rename r.rename)
  /-- As many were stamped. -/
  opened : t.opened p = s.opened p
  sound : s.Sound r.stamps first
  sound' : t.Sound r.stamps' first

/-- Nothing happened to the sessions of anybody but `p`. -/
structure Spares (p : Principal) (s s' : StampedStore) : Prop where
  /-- The others hold the same sessions. -/
  live {q : Principal} : q ≠ p → s'.store.live q = s.store.live q
  /-- None of theirs was stamped. -/
  opened {q : Principal} : q ≠ p → s'.opened q = s.opened q
  sound : s'.Sound r.stamps first

variable {r} {s s' t : StampedStore}

theorem tracks_unstamped (r : Renaming first) (p : Principal) :
    r.Tracks p (.unstamped first) (.unstamped first) where
  live := by
    have hheld : (first.live p).map (Session.rename r.rename) = (first.live p).map fun x => x :=
      List.map_congr_left fun x hx => by rw [Session.rename, r.held hx]
    rw [List.map_id'] at hheld
    exact hheld.symm
  opened := rfl
  sound := StampedStore.sound_unstamped r.distinct r.fresh
  sound' := StampedStore.sound_unstamped r.distinct r.fresh'

/-! ### Both stores are asked for the same -/

theorem Tracks.count (h : r.Tracks p s t) : t.store.count p = s.store.count p := by
  rw [SessionStore.count, h.live, List.length_map]
  rfl

theorem Tracks.list (h : r.Tracks p s t) :
    t.store.list p = (s.store.list p).map (Session.rename r.rename) := by
  rw [SessionStore.list, h.live, SessionStore.list, List.map_take, List.map_reverse]

theorem Tracks.openSession (h : r.Tracks p s t) (userAgent ipAddress serviceProvider : String) :
    r.Tracks p (s.openSession r.stamps p userAgent ipAddress serviceProvider)
      (t.openSession r.stamps' p userAgent ipAddress serviceProvider) where
  live := by
    rw [StampedStore.live_openSession, StampedStore.live_openSession, List.map_append, h.live,
      h.opened, r.stamp]
    rfl
  opened := by
    rw [StampedStore.opened_openSession, StampedStore.opened_openSession, h.opened]
  sound := h.sound.openSession r.fresh ..
  sound' := h.sound'.openSession r.fresh' ..

theorem Tracks.terminate (h : r.Tracks p s t) (hid : r.stamps.Mine first p id) :
    r.Tracks p (s.terminate id) (t.terminate (r.rename id)) where
  live := by
    rw [StampedStore.terminate, StampedStore.terminate, h.sound.distinct.live_terminate,
      h.sound'.distinct.live_terminate, h.live, List.filter_map]
    refine congrArg _ (List.filter_congr fun x hx => ?_)
    have hiff : r.rename x.id = r.rename id ↔ x.id = id :=
      ⟨r.injective (h.sound.mine hx) hid, congrArg r.rename⟩
    simp [Session.rename, hiff]
  opened := h.opened
  sound := h.sound.terminate id
  sound' := h.sound'.terminate _

/-- A session is found in both stores or in none. -/
theorem Tracks.found_eq (h : r.Tracks p s t) (hid : r.stamps.Mine first p id) :
    (t.store.terminate (r.rename id)).1 = (s.store.terminate id).1 := by
  rw [Bool.eq_iff_iff, h.sound'.distinct.terminate_iff, h.sound.distinct.terminate_iff,
    h.sound'.holds_iff_of_mine r.distinct r.fresh' (r.mine hid),
    h.sound.holds_iff_of_mine r.distinct r.fresh hid, h.live]
  simp only [List.mem_map, Session.rename]
  constructor
  · rintro ⟨_, ⟨x, hx, rfl⟩, he⟩
    exact ⟨x, hx, r.injective (h.sound.mine hx) hid he⟩
  · rintro ⟨x, hx, rfl⟩
    exact ⟨_, ⟨x, hx, rfl⟩, rfl⟩

/-! ### Only one store is asked -/

theorem Spares.refl (hs : s.Sound r.stamps first) (p : Principal) : r.Spares p s s :=
  ⟨fun _ => rfl, fun _ => rfl, hs⟩

theorem Spares.openSession (h : r.Spares p s s') (userAgent ipAddress serviceProvider : String) :
    r.Spares p s (s'.openSession r.stamps p userAgent ipAddress serviceProvider) where
  live hq := by rw [StampedStore.live_openSession_of_ne hq, h.live hq]
  opened hq := by rw [StampedStore.opened_openSession_of_ne hq, h.opened hq]
  sound := h.sound.openSession r.fresh ..

theorem Spares.terminate (h : r.Spares p s s') (hid : r.stamps.Mine first p id) :
    r.Spares p s (s'.terminate id) where
  live hq := by rw [h.sound.live_terminate_of_mine r.distinct r.fresh hid hq, h.live hq]
  opened := h.opened
  sound := h.sound.terminate id

/-- What spares the sessions of `q` in the first store need not happen in the second
    one. -/
theorem Tracks.of_spares (h : r.Tracks q s t) (hs : r.Spares p s s') (hq : q ≠ p) :
    r.Tracks q s' t where
  live := by rw [hs.live hq, h.live]
  opened := by rw [hs.opened hq, h.opened]
  sound := hs.sound
  sound' := h.sound'

end Renaming

end LoginGate
