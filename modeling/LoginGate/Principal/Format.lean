import LoginGate.Json.Expect
import LoginGate.Principal

/-!
# How principals are written

To the session stores a principal names a user of a user store and of a tenant, as
in `STORE/user@tenant`. Both qualifiers may be left out and then have default
values. Of the readings of a text as such a name the first one counts, in this
order: one with a store before one without, and a shorter username before a longer
one. The store ends at the first slash, the tenant starts after the last `@`
and has no slash, and a username lies on one line. A text without any reading
is a username as a whole.

In JSON a principal is a string that is not blank.
-/

namespace LoginGate

/-- The user store of a principal that does not name one. -/
def defaultUserStore : String := "PRIMARY"

/-- The tenant of a principal that does not name one. -/
def defaultTenant : String := "carbon.super"

/-- A user as the session stores know it. -/
structure QualifiedUser where
  /-- The user store. -/
  userStore : String
  /-- The name within the user store. -/
  username : String
  /-- The tenant. -/
  tenant : String
deriving DecidableEq, Repr

namespace Principal

/-! ### Users -/

/-- The tenant in what follows a username: none at the end of the text, and
    otherwise everything after an `@`. -/
def tenantAfter : List Char → Option (Option (List Char))
  | [] => some none
  | '@' :: tenant =>
    if !tenant.isEmpty && tenant.all (fun c => c != '@' && c != '/') then some (some tenant)
    else none
  | _ => none

/-- The shortest username that a text starts with and that is followed by
    nothing but a tenant, together with that tenant. -/
def userAndTenant : List Char → Option (List Char × Option (List Char))
  | [] => none
  | c :: rest =>
    if c = '\n' then none
    else
      match tenantAfter rest with
      | some tenant => some ([c], tenant)
      | none => (userAndTenant rest).map fun (user, tenant) => (c :: user, tenant)

/-- The store, username and tenant of a text with a store. -/
def storeReading (s : List Char) : Option (List Char × List Char × Option (List Char)) :=
  match s.takeWhile (· ≠ '/'), s.dropWhile (· ≠ '/') with
  | c :: store, _ :: rest => (userAndTenant rest).map fun (user, tenant) => (c :: store, user, tenant)
  | _, _ => none

/-- A user given by what a reading found. -/
def qualify (store : Option (List Char)) (user : List Char) (tenant : Option (List Char)) :
    QualifiedUser where
  userStore := (store.map String.ofList).getD defaultUserStore
  username := String.ofList user
  tenant := (tenant.map String.ofList).getD defaultTenant

/-- The user that a principal names. -/
def qualified (p : Principal) : QualifiedUser :=
  match storeReading p.text.toList with
  | some (store, user, tenant) => qualify (some store) user tenant
  | none =>
    match userAndTenant p.text.toList with
    | some (user, tenant) => qualify none user tenant
    | none => qualify none p.text.toList none

/-! ### JSON -/

open Json

/-- Why a text is not the JSON form of a principal. -/
inductive FormatError where
  /-- The text is not the JSON form of a string. -/
  | unreadable (error : Json.Error)
  /-- The string is no principal. -/
  | invalid (error : PrincipalError)

/-- The error in words. -/
def FormatError.message : FormatError → String
  | .unreadable e => e.message
  | .invalid e => e.message

/-- The JSON form of a principal. -/
def toJson (p : Principal) : Value := .string p.text

/-- Reads a principal from its JSON form. -/
def parse (text : String) : Except FormatError Principal :=
  Reader.string.runChecked .unreadable (fun s => (ofText s).mapError .invalid) text

end Principal

end LoginGate
