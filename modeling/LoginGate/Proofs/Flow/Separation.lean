import LoginGate.Proofs.Flow.Crowd
import LoginGate.Proofs.Flow.SessionLimited
import LoginGate.Proofs.Registry.Renaming

/-!
# Attempts of different principals

Attempts of different principals share a controller and a store, and their calls
come in any order. What a step does may depend on the step, on its attempt, and on
the sessions of the attempt's principal, and it opens and closes sessions of the
principal only (`Conduct`). Then the attempts do not notice one another: of each
of them comes what would come of its own calls alone, on the store as it was at
first, and so does the list of sessions of each principal (`no_interference`).

This is not obvious from the store alone, which looks for a session to be closed
among the sessions of everybody. It rests on two facts about what is done for a
principal, by the conduct of a step and so by a call: it is the same on stores
that agree about the principal (`Conduct.tracks_run`), and it spares the sessions
of all others (`Conduct.spares_run`).
-/

namespace LoginGate

/-- What a step does about the sessions of the principal, depending on what it is
    told of them on the way. -/
inductive Conduct where
  /-- The step is over, with its result and the attributes of the attempt. -/
  | reply (result : Except StepError StepStatus) (attributes : Attributes)
  /-- The sessions are counted. -/
  | count (next : Nat → Conduct)
  /-- The sessions are listed. -/
  | list (next : List Session → Conduct)
  /-- A session is opened, and its id is told. -/
  | openSession (userAgent ipAddress serviceProvider : String) (next : String → Conduct)
  /-- A session is closed, and it is told whether there was one. -/
  | terminate (id : String) (next : Bool → Conduct)

namespace Conduct

/-- The step is executed for a principal. -/
def run (stamps : Stamps) (p : Principal) : Conduct → StampedStore → StepReply StampedStore
  | reply result attributes, s => ⟨result, attributes, s⟩
  | count next, s => (next (s.store.count p)).run stamps p s
  | list next, s => (next (s.store.list p)).run stamps p s
  | openSession userAgent ipAddress serviceProvider next, s =>
    (next (stamps p (s.opened p)).id).run stamps p
      (s.openSession stamps p userAgent ipAddress serviceProvider)
  | terminate id next, s => (next (s.store.terminate id).1).run stamps p (s.terminate id)

/-- The step closes only sessions that it was told of, by listing or by opening
    them. -/
def ClosesTold (told : List String) : Conduct → Prop
  | reply _ _ => True
  | count next => ∀ n, (next n).ClosesTold told
  | list next => ∀ l, (next l).ClosesTold (l.map Session.id ++ told)
  | openSession _ _ _ next => ∀ id, (next id).ClosesTold (id :: told)
  | terminate id next => id ∈ told ∧ ∀ found, (next found).ClosesTold told

/-- The second step does the same as the first one where the ids of sessions are
    renamed. -/
inductive Renamed (f : String → String) : Conduct → Conduct → Prop
  | reply {result : Except StepError StepStatus} {attributes : Attributes} :
    Renamed f (.reply result attributes) (.reply result attributes)
  | count {next next' : Nat → Conduct} :
    (∀ n, Renamed f (next n) (next' n)) → Renamed f (.count next) (.count next')
  | list {next next' : List Session → Conduct} :
    (∀ l, Renamed f (next l) (next' (l.map (Session.rename f)))) →
    Renamed f (.list next) (.list next')
  | openSession {userAgent ipAddress serviceProvider : String} {next next' : String → Conduct} :
    (∀ id, Renamed f (next id) (next' (f id))) →
    Renamed f (.openSession userAgent ipAddress serviceProvider next)
      (.openSession userAgent ipAddress serviceProvider next')
  | terminate {id : String} {next next' : Bool → Conduct} :
    (∀ found, Renamed f (next found) (next' found)) →
    Renamed f (.terminate id next) (.terminate (f id) next')

/-- If no id is renamed, any step does the same as itself. -/
theorem renamed_self (k : Conduct) : Renamed (fun id => id) k k := by
  induction k with
  | reply => exact .reply
  | count next ih => exact .count ih
  | list next ih =>
    refine .list fun l => ?_
    have hl : l.map (Session.rename fun id => id) = l := List.map_id' l
    rw [hl]
    exact ih l
  | openSession userAgent ipAddress serviceProvider next ih => exact .openSession ih
  | terminate id next ih => exact .terminate ih

variable {first : SessionStore} {r : Renaming first} {p q : Principal} {s s' t : StampedStore}
  {told : List String}

/-- Sessions that are listed are the principal's. -/
theorem mine_of_told_list (hs : s.Sound r.stamps first)
    (htold : ∀ id ∈ told, r.stamps.Mine first p id) :
    ∀ id ∈ (s.store.list p).map Session.id ++ told, r.stamps.Mine first p id := by
  intro id hid
  rcases List.mem_append.1 hid with hid | hid
  · obtain ⟨x, hx, rfl⟩ := List.mem_map.1 hid
    exact hs.mine (List.mem_reverse.1 (List.mem_of_mem_take hx))
  · exact htold id hid

/-- So are those that are opened. -/
theorem mine_of_told_openSession (n : Nat) (htold : ∀ id ∈ told, r.stamps.Mine first p id) :
    ∀ id ∈ (r.stamps p n).id :: told, r.stamps.Mine first p id := by
  intro id hid
  rcases List.mem_cons.1 hid with rfl | hid
  · exact .inr ⟨n, rfl⟩
  · exact htold id hid

/-- A step does the same on stores that agree about the principal. -/
theorem tracks_run {k k' : Conduct} (h : Renamed r.rename k k') (hk : k.ClosesTold told)
    (htold : ∀ id ∈ told, r.stamps.Mine first p id) (hst : r.Tracks p s t) :
    ∃ v, k'.run r.stamps' p t = (k.run r.stamps p s).map (fun _ => v) ∧
      r.Tracks p (k.run r.stamps p s).state v := by
  induction h generalizing s t told with
  | reply => exact ⟨t, rfl, hst⟩
  | count _ ih =>
    rw [run, run, hst.count]
    exact ih _ (hk _) htold hst
  | list _ ih =>
    rw [run, run, hst.list]
    exact ih _ (hk _) (mine_of_told_list hst.sound htold) hst
  | openSession _ ih =>
    rw [run, run, hst.opened, r.stamp]
    exact ih _ (hk _) (mine_of_told_openSession _ htold) (hst.openSession ..)
  | terminate _ ih =>
    have hid := htold _ hk.1
    rw [run, run, hst.found_eq hid]
    exact ih _ (hk.2 _) htold (hst.terminate hid)

/-- A step spares the sessions of all others. -/
theorem spares_run {k : Conduct} (hk : k.ClosesTold told)
    (htold : ∀ id ∈ told, r.stamps.Mine first p id) (hs : r.Spares p s s') :
    r.Spares p s (k.run r.stamps p s').state := by
  induction k generalizing s' told with
  | reply => exact hs
  | count next ih => exact ih _ (hk _) htold hs
  | list next ih => exact ih _ (hk _) (mine_of_told_list hs.sound htold) hs
  | openSession userAgent ipAddress serviceProvider next ih =>
    exact ih _ (hk _) (mine_of_told_openSession _ htold) (hs.openSession ..)
  | terminate id next ih => exact ih _ (hk.2 _) htold (hs.terminate (htold _ hk.1))

end Conduct

/-- What steps do about the sessions of the principals of their attempts. If ids are
    renamed, it must not depend on them. -/
structure Manners {first : SessionStore} (r : Renaming first) where
  /-- What a step does for an attempt. -/
  conduct : StepId → Attempt → Conduct
  /-- Only sessions are closed that the step was told of. -/
  closesTold (step : StepId) (a : Attempt) : (conduct step a).ClosesTold []
  /-- Where ids are renamed, the same is done. -/
  renamed (step : StepId) (a : Attempt) : (conduct step a).Renamed r.rename (conduct step a)

namespace Manners

variable {first : SessionStore} {r : Renaming first} (b : Manners r) (d : FlowDefinition)

/-- Steps may do anything with the ids that they are told of, if both stores stamp
    sessions alike. -/
def ofConduct (distinct : first.Distinct) {stamps : Stamps} (fresh : stamps.Fresh first)
    (conduct : StepId → Attempt → Conduct)
    (closesTold : ∀ step a, (conduct step a).ClosesTold []) :
    Manners (.same distinct stamps fresh) where
  conduct := conduct
  closesTold := closesTold
  renamed step a := (conduct step a).renamed_self

/-- The controller of a flow on a store that stamps sessions. -/
def controller (stamps : Stamps) : Controller StampedStore where
  definition := d
  executor := ⟨fun step a s => (b.conduct step a).run stamps a.principal s⟩
  registry := SessionStore.registry StampedStore.part

variable {b d} {p : Principal} {s : StampedStore}

/-- Attempts of `p` get the same with either stamps. -/
theorem accords_tracks (p : Principal) :
    (b.controller d r.stamps).Accords (b.controller d r.stamps') p (r.Tracks p) where
  definition := rfl
  execute step := by
    rintro a s t rfl hst
    exact Conduct.tracks_run (b.renamed step a) (b.closesTold step a) (by simp) hst
  count := by
    intro s t hst
    have hcount : (b.controller d r.stamps').registry.count p t = (.ok (t.store.count p), t) := rfl
    rw [hst.count] at hcount
    exact ⟨t, hcount, hst⟩

/-- Attempts of `p` spare the sessions of all others. -/
theorem accords_spares (p : Principal) (s : StampedStore) :
    (b.controller d r.stamps).Accords (b.controller d r.stamps) p
      fun s' t => t = s' ∧ r.Spares p s s' where
  definition := rfl
  execute step := by
    rintro a s' _ rfl ⟨rfl, hs⟩
    exact ⟨_, rfl, rfl, Conduct.spares_run (b.closesTold step a) (by simp) hs⟩
  count := by
    rintro s' _ ⟨rfl, hs⟩
    exact ⟨_, rfl, rfl, hs⟩

/-- So does a call for an attempt of `p`. -/
theorem spares_perform {x : Situation StampedStore} (hs : x.state.Sound r.stamps first)
    (call : Call) :
    ((b.controller d r.stamps).perform call x).2.attempt.principal = x.attempt.principal ∧
      r.Spares x.attempt.principal x.state
        ((b.controller d r.stamps).perform call x).2.state := by
  have hsame : x.Tallies x.attempt.principal
      (fun s' t => t = s' ∧ r.Spares x.attempt.principal x.state s') x :=
    ⟨x.state, rfl, rfl, rfl, .refl hs _⟩
  have hcall := (accords_spares (b := b) (d := d) x.attempt.principal x.state).perform hsame call
  obtain ⟨v, -, hp, -, hspares⟩ := hcall.situation
  exact ⟨hp, hspares⟩

/-! ### All attempts -/

section Crowd

variable {ι : Type} {attempts : ι → Attempt} {w : Crowd ι StampedStore} {i j : ι}
  {k : Course StampedStore}

/-- The members of a crowd are attempts of the principals of `attempts`. -/
def Peopled (attempts : ι → Attempt) (w : Crowd ι StampedStore) : Prop :=
  ∀ i, (w.members i).situation.attempt.principal = (attempts i).principal

/-- In the crowd the attempt `i` has come as far as on its own. -/
structure Alongside (r : Renaming first) (attempts : ι → Attempt) (i : ι)
    (w : Crowd ι StampedStore) (k : Course StampedStore) : Prop where
  /-- The crowd consists of the attempts. -/
  peopled : Peopled attempts w
  /-- The situations are the same, apart from the stores, which agree about the
      principal. -/
  tallies : (w.course i).situation.Tallies (attempts i).principal
    (r.Tracks (attempts i).principal) k.situation
  /-- All calls had the same results. -/
  calls : k.calls = (w.members i).calls

theorem alongside_gather (r : Renaming first) (attempts : ι → Attempt) (i : ι) :
    Alongside r attempts i (.gather attempts (.unstamped first))
      ⟨⟨attempts i, .unstamped first, []⟩, []⟩ where
  peopled _ := rfl
  tallies := ⟨_, rfl, rfl, r.tracks_unstamped _⟩
  calls := rfl

theorem Alongside.sound (h : Alongside r attempts i w k) : w.state.Sound r.stamps first := by
  obtain ⟨v, -, -, htracks⟩ := h.tallies
  exact htracks.sound

/-- Apart from the store, the course in the crowd is the one on its own. -/
theorem Alongside.members_eq (h : Alongside r attempts i w k) :
    w.members i = k.map fun _ => () := by
  obtain ⟨v, hk, -, -⟩ := h.tallies
  rw [Course.map, hk, h.calls]
  rfl

theorem Alongside.live_eq (h : Alongside r attempts i w k) :
    k.situation.state.store.live (attempts i).principal =
      (w.state.store.live (attempts i).principal).map (Session.rename r.rename) := by
  obtain ⟨v, hk, -, htracks⟩ := h.tallies
  rw [hk]
  exact htracks.live

variable [DecidableEq ι]

/-- A call spares the sessions of all principals but the one who is called. -/
theorem spares_serve (hw : Peopled attempts w) (hs : w.state.Sound r.stamps first) (j : ι)
    (call : Call) :
    Peopled attempts ((b.controller d r.stamps).serve w j call) ∧
      r.Spares (attempts j).principal w.state ((b.controller d r.stamps).serve w j call).state := by
  have hj : (w.course j).situation.attempt.principal = (attempts j).principal := hw j
  obtain ⟨hp, hspares⟩ := spares_perform (b := b) (d := d) (x := (w.course j).situation) hs call
  refine ⟨?_, hj ▸ hspares⟩
  exact Controller.forall_members_serve
    (P := fun i k => k.situation.attempt.principal = (attempts i).principal) hw (hp.trans hj)

/-- A call for the attempt is made in the crowd and on its own. -/
theorem Alongside.serve (h : Alongside r attempts i w k) (call : Call) :
    Alongside r attempts i ((b.controller d r.stamps).serve w i call)
      ((b.controller d r.stamps').extend k call) := by
  have hcall := (accords_tracks (b := b) (d := d) (attempts i).principal).perform h.tallies call
  refine ⟨(spares_serve h.peopled h.sound i call).1, ?_, ?_⟩
  · rw [Controller.course_serve]
    exact hcall.situation
  · rw [Controller.members_serve, Controller.extend, h.calls, hcall.result]
    rfl

/-- A call for an attempt of somebody else is made in the crowd only. -/
theorem Alongside.serve_of_ne (h : Alongside r attempts i w k)
    (hj : (attempts i).principal ≠ (attempts j).principal) (call : Call) :
    Alongside r attempts i ((b.controller d r.stamps).serve w j call) k := by
  have hij : i ≠ j := fun heq => hj (congrArg (fun i => (attempts i).principal) heq)
  have hmember : ((b.controller d r.stamps).serve w j call).members i = w.members i :=
    Controller.members_serve_of_ne hij
  obtain ⟨hpeopled, hspares⟩ := spares_serve (b := b) (d := d) h.peopled h.sound j call
  obtain ⟨v, hk, hp, htracks⟩ := h.tallies
  refine ⟨hpeopled, ⟨v, ?_, ?_, htracks.of_spares hspares hj⟩, ?_⟩
  · rw [Crowd.course, hmember]
    exact hk
  · rw [Crowd.course, hmember]
    exact hp
  · rw [hmember]
    exact h.calls

/-- So are any calls, of which only those for the attempt are made on its own. -/
theorem Alongside.foldl (h : Alongside r attempts i w k)
    (hne : Function.Injective fun i => (attempts i).principal) (calls : List (ι × Call)) :
    Alongside r attempts i
      (calls.foldl (fun w x => (b.controller d r.stamps).serve w x.1 x.2) w)
      ((callsOf i calls).foldl (b.controller d r.stamps').extend k) := by
  induction calls generalizing w k with
  | nil => exact h
  | cons x later ih =>
    obtain ⟨j, call⟩ := x
    by_cases hj : j = i
    · subst hj
      have hcalls : callsOf j ((j, call) :: later) = call :: callsOf j later := by simp [callsOf]
      rw [hcalls]
      exact ih (h.serve call)
    · have hcalls : callsOf i ((j, call) :: later) = callsOf i later := by simp [callsOf, hj]
      rw [hcalls]
      exact ih (h.serve_of_ne (fun hp => hj (hne hp).symm) call)

/-- Whoever has no attempt keeps the same sessions. -/
theorem live_foldl (hw : Peopled attempts w) (hs : w.state.Sound r.stamps first) {q : Principal}
    (hq : ∀ i, (attempts i).principal ≠ q) (calls : List (ι × Call)) :
    (calls.foldl (fun w x => (b.controller d r.stamps).serve w x.1 x.2) w).state.store.live q =
      w.state.store.live q := by
  induction calls generalizing w with
  | nil => rfl
  | cons x later ih =>
    obtain ⟨hpeopled, hspares⟩ := spares_serve (b := b) (d := d) hw hs x.1 x.2
    exact (ih hpeopled hspares.sound).trans (hspares.live (hq x.1).symm)

end Crowd

/-- Attempts of different principals share a controller and a store, and are called
    for in any order. Of each of them comes what comes of its own calls alone: the
    same results, steps, attributes and events, and in the end the principal holds
    the same sessions, with the ids that they are stamped with on their own. Whoever
    has no attempt holds the same sessions as at first. -/
theorem no_interference {ι : Type} [DecidableEq ι] (b : Manners r) (d : FlowDefinition)
    (attempts : ι → Attempt) (hne : Function.Injective fun i => (attempts i).principal)
    (calls : List (ι × Call)) :
    let w := calls.foldl (fun w x => (b.controller d r.stamps).serve w x.1 x.2)
      (.gather attempts (.unstamped first))
    (∀ i,
      let k := (b.controller d r.stamps').course (callsOf i calls) (attempts i) (.unstamped first)
      w.members i = k.map (fun _ => ()) ∧
        k.situation.state.store.live (attempts i).principal =
          (w.state.store.live (attempts i).principal).map (Session.rename r.rename)) ∧
      ∀ p, (∀ i, (attempts i).principal ≠ p) → w.state.store.live p = first.live p := by
  intro w
  refine ⟨fun i => ?_, fun p hp => ?_⟩
  · have h : Alongside r attempts i w
        ((b.controller d r.stamps').course (callsOf i calls) (attempts i) (.unstamped first)) :=
      (alongside_gather r attempts i).foldl hne calls
    exact ⟨h.members_eq, h.live_eq⟩
  · have hpeopled : Peopled attempts (.gather attempts (.unstamped first)) := fun _ => rfl
    exact live_foldl hpeopled (StampedStore.sound_unstamped r.distinct r.fresh) hp calls

/-- If sessions are stamped alike, with others or alone, then steps may do anything with
    the ids that they are told of, and each principal ends up with the very sessions
    that an attempt on its own would leave. -/
theorem no_interference_of_conduct {ι : Type} [DecidableEq ι] (distinct : first.Distinct)
    {stamps : Stamps} (fresh : stamps.Fresh first) (conduct : StepId → Attempt → Conduct)
    (closesTold : ∀ step a, (conduct step a).ClosesTold []) (d : FlowDefinition)
    (attempts : ι → Attempt) (hne : Function.Injective fun i => (attempts i).principal)
    (calls : List (ι × Call)) (i : ι) :
    let c := (ofConduct distinct fresh conduct closesTold).controller d stamps
    let w := calls.foldl (fun w x => c.serve w x.1 x.2) (.gather attempts (.unstamped first))
    let k := c.course (callsOf i calls) (attempts i) (.unstamped first)
    w.members i = k.map (fun _ => ()) ∧
      w.state.store.live (attempts i).principal =
        k.situation.state.store.live (attempts i).principal := by
  intro c w k
  have h : Alongside (.same distinct stamps fresh) attempts i w k :=
    (alongside_gather _ attempts i).foldl (b := ofConduct distinct fresh conduct closesTold)
      hne calls
  refine ⟨h.members_eq, ?_⟩
  rw [h.live_eq]
  exact (List.map_id' _).symm

end Manners

/-- Another principal. -/
def bob : Principal := ⟨"bob", by decide⟩

/-- A store in which alice holds a session. -/
def heldByAlice : SessionStore := SessionStore.empty.openSession alice ⟨"old", "", "", "", ""⟩

theorem eq_old_of_heldByAlice {id : String} (h : heldByAlice.Holds id) : id = "old" := by
  rcases SessionStore.holds_openSession_iff.1 h with ⟨p, x, hx, -⟩ | rfl
  · cases hx
  · rfl

/-- The stamps with a dash before each id. -/
def dashedStamps : Stamps := fun p n => ⟨"-" ++ (letteredStamps p n).id, ""⟩

theorem mem_dashed (p : Principal) (n : Nat) : 'b' ∈ (dashedStamps p n).id.toList := by
  rw [dashedStamps, String.toList_append]
  exact List.mem_append_right _ (mem_lettered p n)

/-- Sessions that are opened are stamped with dashes or without. -/
def dashed : Renaming heldByAlice where
  rename id := if 'b' ∈ id.toList then "-" ++ id else id
  stamps := letteredStamps
  stamps' := dashedStamps
  distinct := SessionStore.distinct_empty.openSession alice (by decide)
    (by rintro ⟨p, x, hx, -⟩; cases hx)
  fresh := fresh_letteredStamps fun id h => by rw [eq_old_of_heldByAlice h]; decide
  fresh' :=
    { injective := fun h => lettered_injective (by simpa [dashedStamps] using h)
      unheld := fun p n h => absurd (eq_old_of_heldByAlice h ▸ mem_dashed p n) (by decide)
      shown := fun p n => not_blank_of_mem (mem_dashed p n) (by decide) }
  held := by
    intro p x hx
    rw [eq_old_of_heldByAlice ⟨p, x, hx, rfl⟩]
    rfl
  stamp p n := by rw [if_pos (mem_lettered p n)]; rfl

/-- The entry succeeds, the step that proceeds opens a session, and the remediation
    closes the oldest one that is listed and is suspended. -/
def tidyConduct (step : StepId) (a : Attempt) : Conduct :=
  if step = ⟨"2"⟩ then
    .openSession "" "" "" fun _ => .reply (.ok (.completed .success)) a.attributes
  else if step = ⟨"3"⟩ then
    .list fun l =>
      match l.getLast? with
      | some x => .terminate x.id fun _ => .reply (.ok .suspended) a.attributes
      | none => .reply (.ok .suspended) a.attributes
  else .reply (.ok (.completed .success)) a.attributes

def tidyManners : Manners dashed where
  conduct := tidyConduct
  closesTold step a := by
    rw [tidyConduct]
    split
    · exact fun _ => trivial
    · split
      · intro l
        dsimp only
        split
        · next x hx =>
          refine ⟨?_, fun _ => trivial⟩
          rw [List.append_nil]
          exact List.mem_map_of_mem (List.mem_of_getLast? hx)
        · trivial
      · trivial
  renamed step a := by
    rw [tidyConduct]
    split
    · exact .openSession fun _ => .reply
    · split
      · refine .list fun l => ?_
        rw [List.getLast?_map]
        cases l.getLast? with
        | none => exact .reply
        | some x => exact .terminate fun _ => .reply
      · exact .reply

/-- A flow with room for one session. -/
def singleFlow : FlowDefinition :=
  .sessionLimited ⟨1, Nat.one_pos, Word.one_lt_size32⟩ ⟨"1"⟩ ⟨"2"⟩ ⟨"3"⟩

/-- Alice has no room for another session, bob has. -/
def twoLogins : Fin 2 → Attempt := fun i => .new (if i = 0 then alice else bob)

/-- Bob logs in while alice waits. -/
def twoLoginsServed : Crowd (Fin 2) StampedStore :=
  [(0, .start), (1, .start), (0, .resume .success)].foldl
    (fun w x => (tidyManners.controller singleFlow dashed.stamps).serve w x.1 x.2)
    (.gather twoLogins (.unstamped heldByAlice))

/-- The login of alice, as if bob were not there. -/
def aloneServed : Course StampedStore :=
  (tidyManners.controller singleFlow dashed.stamps').course [.start, .resume .success] (.new alice)
    (.unstamped heldByAlice)

/-- The old session of alice gives way to a new one, whether bob logs in or not. -/
theorem separate_twoLogins :
    Function.Injective (fun i => (twoLogins i).principal) ∧
      twoLoginsServed.members 0 = aloneServed.map (fun _ => ()) ∧
      aloneServed.situation.state.store.live alice =
        (twoLoginsServed.state.store.live alice).map (Session.rename dashed.rename) ∧
      (twoLoginsServed.state.store.live alice).map Session.id = ["balice"] ∧
      (twoLoginsServed.state.store.live bob).map Session.id = ["bbob"] ∧
      (aloneServed.situation.state.store.live alice).map Session.id = ["-balice"] := by
  have hne : Function.Injective fun i => (twoLogins i).principal := by decide
  have hboth := (tidyManners.no_interference singleFlow twoLogins hne
    [(0, .start), (1, .start), (0, .resume .success)]).1 0
  exact ⟨hne, hboth.1, hboth.2, rfl, rfl, rfl⟩

end LoginGate
