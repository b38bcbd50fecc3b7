import LoginGate.Proofs.Json.Reading
import LoginGate.Proofs.Registry.Query
import LoginGate.Registry.Analytics
import Mathlib.Data.List.Nodup
import Mathlib.Data.List.Perm.Subperm

/-!
# Principals that share a query

A principal is one of at most four spellings of the user that it names: with and
without the store, with and without the tenant, and what is left out is the
default (`spelling_qualified`). No part of the text gets lost when it is split,
in whatever way a text with several separators is read.

So the query for a principal, which says all there is to say about the user,
identifies the principal up to these spellings, and the analytics service never
counts the sessions of one principal for another one that names another user.
-/

namespace LoginGate

/-! ### Spellings -/

/-- The texts that spell a user. A part may be left out that is the default. -/
inductive QualifiedUser.Spelling (user : QualifiedUser) : String → Prop
  | bare : user.userStore = defaultUserStore → user.tenant = defaultTenant →
    Spelling user user.username
  | withStore : user.tenant = defaultTenant →
    Spelling user (user.userStore ++ "/" ++ user.username)
  | withTenant : user.userStore = defaultUserStore →
    Spelling user (user.username ++ "@" ++ user.tenant)
  | full : Spelling user (user.userStore ++ "/" ++ user.username ++ "@" ++ user.tenant)

/-- All spellings that a user may have, whatever is the default. -/
def QualifiedUser.spellings (user : QualifiedUser) : List String :=
  [user.username, user.userStore ++ "/" ++ user.username, user.username ++ "@" ++ user.tenant,
    user.userStore ++ "/" ++ user.username ++ "@" ++ user.tenant]

theorem QualifiedUser.Spelling.mem_spellings {user : QualifiedUser} {text : String}
    (h : user.Spelling text) : text ∈ user.spellings := by
  cases h <;> simp [spellings]

namespace Principal

/-- Both principals spell one user, so they differ at most by a default that is
    spelled out in one of them. -/
def Respells (x y : Principal) : Prop :=
  ∃ user : QualifiedUser, user.Spelling x.text ∧ user.Spelling y.text

/-- What stands before a username. -/
def storePart : Option (List Char) → List Char
  | none => []
  | some store => store ++ ['/']

/-- What stands behind a username. -/
def tenantPart : Option (List Char) → List Char
  | none => []
  | some tenant => '@' :: tenant

variable {s store user : List Char} {tenant : Option (List Char)}

theorem eq_of_tenantAfter (h : tenantAfter s = some tenant) : s = tenantPart tenant := by
  unfold tenantAfter at h
  split at h
  · obtain rfl := Option.some.inj h
    rfl
  · next rest =>
    split at h
    · obtain rfl := Option.some.inj h
      rfl
    · exact absurd h (by simp)
  · exact absurd h (by simp)

theorem eq_of_userAndTenant (h : userAndTenant s = some (user, tenant)) :
    s = user ++ tenantPart tenant := by
  induction s generalizing user with
  | nil => exact absurd h (by simp [userAndTenant])
  | cons c rest ih =>
    rw [userAndTenant] at h
    by_cases hc : c = '\n'
    · exact absurd h (by simp [hc])
    · rw [if_neg hc] at h
      split at h
      · next t ht =>
        -- The username is over after this character.
        obtain ⟨rfl, rfl⟩ := Prod.mk.inj (Option.some.inj h)
        exact congrArg (List.cons c) (eq_of_tenantAfter ht)
      · obtain ⟨⟨user', tenant'⟩, hrest, heq⟩ := Option.map_eq_some_iff.1 h
        obtain ⟨rfl, rfl⟩ := Prod.mk.inj heq
        exact congrArg (List.cons c) (ih hrest)

theorem eq_of_storeReading (h : storeReading s = some (store, user, tenant)) :
    s = storePart (some store) ++ user ++ tenantPart tenant := by
  unfold storeReading at h
  split at h
  · next c store' slash rest htake hdrop =>
    obtain ⟨⟨user', tenant'⟩, hrest, heq⟩ := Option.map_eq_some_iff.1 h
    obtain ⟨rfl, rfl, rfl⟩ : c :: store' = store ∧ user' = user ∧ tenant' = tenant := by
      simpa using heq
    have hslash : slash = '/' := by simpa using Text.not_of_dropWhile_eq_cons hdrop
    have hsplit : s.takeWhile (· ≠ '/') ++ s.dropWhile (· ≠ '/') = s :=
      List.takeWhile_append_dropWhile
    rw [htake, hdrop, hslash, eq_of_userAndTenant hrest] at hsplit
    rw [← hsplit]
    simp [storePart]
  · exact absurd h (by simp)

/-- Parts that are put together again spell the user that they make. -/
theorem spelling_qualify (store : Option (List Char)) (user : List Char)
    (tenant : Option (List Char)) :
    (qualify store user tenant).Spelling
      (String.ofList (storePart store ++ user ++ tenantPart tenant)) := by
  rcases store with _ | store <;> rcases tenant with _ | tenant
  · have h : (qualify none user none).Spelling _ := .bare rfl rfl
    simpa [storePart, tenantPart, qualify] using h
  · have h : (qualify none user (some tenant)).Spelling _ := .withTenant rfl
    convert h using 1
    simp [storePart, tenantPart, qualify, String.ext_iff]
  · have h : (qualify (some store) user none).Spelling _ := .withStore rfl
    convert h using 1
    simp [storePart, tenantPart, qualify, String.ext_iff]
  · have h : (qualify (some store) user (some tenant)).Spelling _ := .full
    convert h using 1
    simp [storePart, tenantPart, qualify, String.ext_iff]

/-- A principal spells the user that it names. -/
theorem spelling_qualified (p : Principal) : p.qualified.Spelling p.text := by
  have htext {l : List Char} (h : p.text.toList = l) : p.text = String.ofList l := by
    rw [← h, String.ofList_toList]
  rw [qualified]
  split
  · next store user tenant h =>
    rw [htext (eq_of_storeReading h)]
    exact spelling_qualify (some store) user tenant
  · split
    · next user tenant h =>
      rw [htext (eq_of_userAndTenant h)]
      exact spelling_qualify none user tenant
    · -- Without any reading, the text as a whole is the username.
      have hall := spelling_qualify none p.text.toList none
      rwa [storePart, tenantPart, List.append_nil, List.nil_append, String.ofList_toList] at hall

/-- Principals that name the same user respell each other. -/
theorem respells_of_qualified_eq {x y : Principal} (h : x.qualified = y.qualified) :
    x.Respells y :=
  ⟨x.qualified, x.spelling_qualified, h ▸ y.spelling_qualified⟩

/-- At most four principals name the same user. -/
theorem length_le_four_of_qualified_eq {user : QualifiedUser} {l : List Principal}
    (hl : l.Nodup) (h : ∀ p ∈ l, p.qualified = user) : l.length ≤ 4 := by
  have hinj : Function.Injective Principal.text := by
    rintro ⟨s, hs⟩ ⟨t, ht⟩ rfl
    rfl
  have hsub : l.map Principal.text ⊆ user.spellings := by
    intro text htext
    obtain ⟨p, hp, rfl⟩ := List.mem_map.1 htext
    exact h p hp ▸ p.spelling_qualified.mem_spellings
  have hle := ((List.Nodup.map hinj hl).subperm hsub).length_le
  rwa [List.length_map] at hle

end Principal

/-! ### Rows that a query selects -/

/-- The part of a user that a field of the table of sessions holds. -/
def QualifiedUser.field? (user : QualifiedUser) (name : String) : Option String :=
  if name = "tenantDomain" then some user.tenant
  else if name = "username" then some user.username
  else if name = "userstoreDomain" then some user.userStore
  else none

/-- A token of a query holds for the sessions of a user. Words only join the
    clauses around them. -/
def QueryToken.Holds (user : QualifiedUser) : QueryToken → Prop
  | .word _ => True
  | .clause field value => user.field? (QueryMark.text field) = some (QueryMark.text value)

/-- A query selects the sessions of a user. -/
def Selects (query : String) (user : QualifiedUser) : Prop :=
  ∀ token ∈ readQuery query, token.Holds user

theorem text_bare (s : String) : QueryMark.text (QueryMark.bare s) = s := by
  rw [QueryMark.text, QueryMark.bare, List.map_map]
  exact (congrArg String.ofList (List.map_id _)).trans String.ofList_toList

/-- The query for a user selects the sessions of this user and of no other. -/
theorem selects_sessionQuery_iff {user other : QualifiedUser} :
    Selects (sessionQuery user) other ↔ other = user := by
  have hclauses : Selects (sessionQuery user) other ↔ other.tenant = user.tenant ∧
      other.username = user.username ∧ other.userStore = user.userStore := by
    rw [Selects, tokens_sessionQuery]
    simp [QueryToken.Holds, text_bare, text_termMarks, QualifiedUser.field?]
  rw [hclauses]
  constructor
  · rintro ⟨ht, hu, hs⟩
    obtain ⟨userStore, username, tenant⟩ := other
    rw [QualifiedUser.mk.injEq]
    exact ⟨hs, hu, ht⟩
  · rintro rfl
    exact ⟨rfl, rfl, rfl⟩

/-- A query is the query for one user only. -/
theorem sessionQuery_inj {user other : QualifiedUser} :
    sessionQuery user = sessionQuery other ↔ user = other := by
  constructor
  · intro h
    have hself : Selects (sessionQuery user) user := selects_sessionQuery_iff.2 rfl
    rw [h] at hself
    exact selects_sessionQuery_iff.1 hself
  · rintro rfl
    rfl

namespace Json

theorem stringText_inj {s t : String} (h : stringText s = stringText t) : s = t := by
  -- Both strings are read from the same text.
  obtain ⟨_, _, hs⟩ := Reader.reads_string s [] 1 0
  obtain ⟨_, _, ht⟩ := Reader.reads_string t [] 1 0
  rw [h, ht] at hs
  exact (Except.ok.inj (Prod.mk.inj hs).1).symm

end Json

/-- What is sent to count sessions says whose they are. -/
theorem Analytics.render_countQuestion_inj {x y : Principal}
    (h : (countQuestion x).render = (countQuestion y).render) : x.qualified = y.qualified := by
  have htext := String.ofList_injective h
  simp only [countQuestion, Json.Value.text, Json.membersText, List.cons_append,
    List.append_assoc, List.cons.injEq, true_and, List.append_cancel_left_eq,
    List.append_cancel_right_eq] at htext
  exact sessionQuery_inj.1 (Json.stringText_inj htext)

/-- A query identifies the principal that it is made for, up to defaults that are
    spelled out. Two principals have the same query if and only if they name the
    same user, and a principal is a spelling of the user that it names, so at most
    four principals share a query. Of principals that do not respell each other,
    the query of neither one selects the sessions of the other, and what is sent
    to count them differs. -/
theorem query_identifies_principal (x y : Principal) :
    (sessionQuery x.qualified = sessionQuery y.qualified ↔ x.qualified = y.qualified) ∧
      x.qualified.Spelling x.text ∧
      (∀ sharing : List Principal, sharing.Nodup →
        (∀ z ∈ sharing, sessionQuery z.qualified = sessionQuery x.qualified) →
        sharing.length ≤ 4) ∧
      (¬x.Respells y →
        ¬Selects (sessionQuery x.qualified) y.qualified ∧
        ¬Selects (sessionQuery y.qualified) x.qualified ∧
        (Analytics.countQuestion x).render ≠ (Analytics.countQuestion y).render) := by
  refine ⟨sessionQuery_inj, x.spelling_qualified, fun sharing hn hs => ?_, fun hxy => ?_⟩
  · exact Principal.length_le_four_of_qualified_eq hn fun z hz => sessionQuery_inj.1 (hs z hz)
  · have hne : x.qualified ≠ y.qualified := fun h => hxy (Principal.respells_of_qualified_eq h)
    refine ⟨fun h => hne ?_, fun h => hne ?_, fun h => hne (Analytics.render_countQuestion_inj h)⟩
    · exact (selects_sessionQuery_iff.1 h).symm
    · exact selects_sessionQuery_iff.1 h

end LoginGate
