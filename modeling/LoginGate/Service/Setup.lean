import LoginGate.CommandLine.Setting
import LoginGate.Registry.Analytics
import LoginGate.Text.Blank
import LoginGate.Url.Parse

/-!
# Setups

What the service is started with, as far as the settings make sense: where it
listens, the limit it works with, the store that it asks, and the token of its
administration. A blank text counts as if it were not given.
-/

namespace LoginGate

/-- Where the open sessions are registered. -/
inductive Backend where
  /-- A database, by its address. -/
  | database (dsn : String)
  /-- An analytics service. -/
  | analytics (service : Analytics)

/-- What the service is started with. -/
structure Setup where
  /-- The port to listen on. -/
  port : Nat
  /-- The limit for requests that do not give one. -/
  sessionLimit : SessionLimit
  /-- Where the open sessions are registered. -/
  backend : Backend
  /-- The token of the administration, if it is open. -/
  adminToken : Option String

/-- Why settings do not make a setup. -/
inductive SetupError where
  /-- A setting is not given. -/
  | missing (setting : Setting)
  /-- A setting is no URL. -/
  | badUrl (setting : Setting) (error : UrlError)
deriving DecidableEq, Repr

/-- The error in words. -/
def SetupError.message : SetupError → String
  | .missing s => "missing required argument: --" ++ s.name
  | .badUrl s e => "invalid --" ++ s.name ++ ": " ++ e.message

/-- The port if none is given. -/
def defaultPort : Nat := 8080

/-- The limit if none is given. -/
def defaultLimit : SessionLimit := ⟨2, by decide, by decide⟩

/-! ### Reading settings -/

/-- The text of a setting, if it is not blank. -/
def shownText? (g : Given) (s : Setting) : Option String :=
  (g.get? s).filter fun text => !Text.isBlankText text

/-- The port of the settings. -/
def givenPort (g : Given) : Nat := ((g.get? .port).bind readPort?).getD defaultPort

/-- The limit of the settings. -/
def givenLimit (g : Given) : SessionLimit :=
  ((g.get? .sessionLimit).bind readLimit?).getD defaultLimit

/-- The verbosity of the settings. -/
def givenVerbosity (g : Given) : Nat := ((g.get? .verbosity).bind readVerbosity?).getD 0

/-- The text of a setting that must not be blank. -/
def neededText (g : Given) (s : Setting) : Except SetupError String :=
  match shownText? g s with
  | some text => .ok text
  | none => .error (.missing s)

/-- The URL of a setting. -/
def neededUrl (g : Given) (s : Setting) : Except SetupError Url := do
  let text ← neededText g s
  (Url.parse text).mapError (.badUrl s)

/-- The store of the settings: a database if one is given, and otherwise the
    analytics service. -/
def givenBackend (g : Given) : Except SetupError Backend :=
  match shownText? g .dsn with
  | some dsn => .ok (.database dsn)
  | none => do
    let countUrl ← neededUrl g .countUrl
    let searchUrl ← neededUrl g .searchUrl
    let username ← neededText g .username
    let password ← neededText g .password
    return .analytics ⟨countUrl, searchUrl, username, password, Analytics.defaultTimeout⟩

/-- The setup of the settings. -/
def Setup.ofGiven (g : Given) : Except SetupError Setup := do
  let backend ← givenBackend g
  return ⟨givenPort g, givenLimit g, backend, shownText? g .adminToken⟩

theorem shownText?_eq_some_iff {g : Given} {s : Setting} {text : String} :
    shownText? g s = some text ↔ g.get? s = some text ∧ Text.isBlankText text = false := by
  rw [shownText?, Option.filter_eq_some_iff, Bool.not_eq_true']

/-- A setup is made once its store is. -/
theorem Setup.exists_of_ofGiven {g : Given} {setup : Setup} (h : ofGiven g = .ok setup) :
    ∃ backend, givenBackend g = .ok backend ∧
      setup = ⟨givenPort g, givenLimit g, backend, shownText? g .adminToken⟩ := by
  rw [ofGiven] at h
  cases hb : givenBackend g with
  | error e =>
    rw [hb] at h
    cases h
  | ok backend =>
    rw [hb] at h
    exact ⟨backend, rfl, (Except.ok.inj h).symm⟩

end LoginGate
