import LoginGate.Dictionary
import LoginGate.Registry.Session
import LoginGate.Text.Blank

/-!
# Sessions in memory

A store that keeps, for every principal, the open sessions in the order in
which they were opened. Whoever opens a session chooses its id, and is expected
to choose one that was never used.

`SessionStore.live` is the view of the store that its operations are understood
through: the open sessions of one principal.
-/

namespace LoginGate

/-- The open sessions of all principals. -/
structure SessionStore where
  /-- The sessions of each principal, in the order of opening. -/
  sessions : Dictionary Principal (List Session)

namespace SessionStore

/-- The store without sessions. -/
def empty : SessionStore := ⟨.empty⟩

/-- The open sessions of a principal, in the order of opening. -/
def live (s : SessionStore) (p : Principal) : List Session := (s.sessions.get? p).getD []

/-- The store after a session was opened. -/
def openSession (s : SessionStore) (p : Principal) (session : Session) : SessionStore :=
  ⟨s.sessions.insert p (s.live p ++ [session])⟩

/-- How many sessions a principal holds. -/
def count (s : SessionStore) (p : Principal) : Nat := (s.live p).length

/-- The sessions that a principal holds, the newest first and no more than a
    listing holds. -/
def list (s : SessionStore) (p : Principal) : List Session :=
  (s.live p).reverse.take sessionListLimit

/-- The first principal in a list of entries that holds a session with an id. -/
def holder? (id : String) : List (Principal × List Session) → Option Principal
  | [] => none
  | (p, held) :: rest => if held.any (·.id == id) then some p else holder? id rest

/-- Closes the session with an id, and tells whether there was one. A blank id
    is never one of a session. -/
def terminate (s : SessionStore) (id : String) : Bool × SessionStore :=
  if Text.isBlankText id then (false, s)
  else
    match holder? id s.sessions.entries with
    | some p => (true, ⟨s.sessions.insert p ((s.live p).eraseP (·.id == id))⟩)
    | none => (false, s)

@[simp] theorem live_openSession (s : SessionStore) (p q : Principal) (session : Session) :
    (s.openSession p session).live q = if p = q then s.live q ++ [session] else s.live q := by
  by_cases h : p = q <;> simp [openSession, live, h]

@[simp] theorem live_empty (p : Principal) : empty.live p = [] := rfl

theorem length_list_le (s : SessionStore) (p : Principal) :
    (s.list p).length ≤ sessionListLimit := by
  rw [list, List.length_take]
  exact Nat.min_le_left _ _

end SessionStore

/-- A part of a state `σ`: what it is, and how to replace it. -/
structure Part (σ τ : Type) where
  /-- The part. -/
  get : σ → τ
  /-- The state with another part. -/
  set : τ → σ → σ

/-- A state as a part of itself. -/
def Part.whole {σ : Type} : Part σ σ := ⟨id, fun t _ => t⟩

namespace SessionStore

variable {σ : Type}

/-- The registry of a store that is a part of the state. -/
def registry (part : Part σ SessionStore) : Registry σ where
  count p s := (.ok ((part.get s).count p), s)
  list p s := (.ok ((part.get s).list p), s)
  ping s := (.reached, s)

/-- The terminator of a store that is a part of the state. -/
def terminator (part : Part σ SessionStore) : Terminator σ where
  terminate id s :=
    let (found, store) := (part.get s).terminate id
    (.ok found, part.set store s)

end SessionStore

end LoginGate
