import LoginGate.Proofs.CommandLine.Values
import LoginGate.Proofs.Policy.Limit
import LoginGate.Service.Setup

/-!
# Setups that are accepted

A setup that the arguments and the environment make is well-formed, and nothing in it comes
from anywhere else (`Setup.Reflects`). Every number in it is the one that its setting
writes or, if the setting is not given, a default (`Chosen`); the store is a database
exactly if the address of one is given; and there is a token exactly if one is given that
is not blank.

A blank text is given as far as the command line goes, but does not count when the setup
is made. So a blank address of a database rules out the analytics service, and is then
itself refused (`reflects_of_read`).
-/

namespace LoginGate

open CommandLine (Admitted Spells exists_of_bind_eq_ok settingValue)

/-! ### Settings and their defaults -/

/-- What a setting with a default comes to. -/
inductive Chosen {α : Type} (Reads : String → α → Prop) (default : α) : Option String → α → Prop
  /-- The setting is given. -/
  | given {text : String} {a : α} (h : Reads text a) : Chosen Reads default (some text) a
  /-- The setting is not given. -/
  | default : Chosen Reads default none default

section Chosen

variable {α β : Type} {default : α} {value? : Option String}

theorem Chosen.map {R : String → α → Prop} {S : String → β → Prop} {a : α} (f : α → β)
    (hf : ∀ {text a}, R text a → S text (f a)) (h : Chosen R default value? a) :
    Chosen S (f default) value? (f a) := by
  cases h with
  | given h => exact .given (hf h)
  | default => exact .default

theorem Chosen.holds {R : String → α → Prop} {P : α → Prop} {a : α} (h : Chosen R default value? a)
    (hgiven : ∀ {text a}, R text a → P a) (hdefault : P default) : P a := by
  cases h with
  | given h => exact hgiven h
  | default => exact hdefault

theorem chosen_getD {read? : String → Option α}
    (hread : ∀ text, value? = some text → (read? text).isSome = true) (default : α) :
    Chosen (fun text a => read? text = some a) default value?
      ((value?.bind read?).getD default) := by
  rcases value? with _ | text
  · exact .default
  · obtain ⟨a, ha⟩ := Option.isSome_iff_exists.1 (hread text rfl)
    rw [Option.bind_some, ha]
    exact .given ha

end Chosen

theorem readPort?_eq_some_iff {text : String} {n : Nat} :
    readPort? text = some n ↔ Text.Signed text.toList n ∧ n < 2 ^ 16 := by
  rw [readPort?]
  constructor
  · intro h
    split at h
    · next m hm =>
      rw [Option.ite_none_right_eq_some] at h
      obtain ⟨hlt, heq⟩ := h
      obtain rfl := Option.some.inj heq
      exact ⟨(Text.signed64?_eq_some_iff.1 hm).1, hlt⟩
    · cases h
  · rintro ⟨hsigned, hlt⟩
    have hread : Text.signed64? text.toList = some (Int.ofNat n) :=
      Text.signed64?_eq_some_iff.2 ⟨hsigned, by simp, by simp; omega⟩
    rw [hread]
    exact if_pos hlt

theorem readLimit?_eq_some_iff {text : String} {limit : SessionLimit} :
    readLimit? text = some limit ↔ Text.Unsigned text.toList limit.value := by
  rw [← SessionLimit.parse_eq_ok_iff, readLimit?]
  rcases SessionLimit.parse (some text) with _ | _ <;> simp [Except.toOption]

/-! ### Setups and what they are made of -/

/-- A store is the one that the settings name. -/
inductive Backend.Reflects (value? : Setting → Option String) : Backend → Prop
  /-- The address of a database is given, and then none that counts sessions. -/
  | database {dsn : String} (hdsn : value? .dsn = some dsn) (hshown : Text.isBlankText dsn = false)
    (hcount : value? .countUrl = none) : Reflects value? (.database dsn)
  /-- There is no database, and all of the analytics service is given. -/
  | analytics {service : Analytics} {count search : String} (hdsn : value? .dsn = none)
    (hcount : value? .countUrl = some count) (hcountUrl : Url.parse count = .ok service.countUrl)
    (hsearch : value? .searchUrl = some search)
    (hsearchUrl : Url.parse search = .ok service.searchUrl)
    (husername : value? .username = some service.username)
    (husernameShown : Text.isBlankText service.username = false)
    (hpassword : value? .password = some service.password)
    (hpasswordShown : Text.isBlankText service.password = false) :
    Reflects value? (.analytics service)

/-- A setup is well-formed, and made of the settings and defaults. -/
structure Setup.Reflects (value? : Setting → Option String) (setup : Setup) : Prop where
  /-- The port is the one that is given, or 8080. -/
  port : Chosen (fun text (n : Nat) => Text.Signed text.toList n) 8080 (value? .port) setup.port
  /-- The port fits 16 bits. -/
  port_lt : setup.port < 2 ^ 16
  /-- The limit is the one that is given, or 2. -/
  limit : Chosen (fun text n => Text.Unsigned text.toList n) 2 (value? .sessionLimit)
    setup.sessionLimit.value
  /-- The limit is in its range. -/
  limit_range : 1 ≤ setup.sessionLimit.value ∧ setup.sessionLimit.value ≤ 2 ^ 32 - 1
  /-- The store is the one that is given. -/
  backend : setup.backend.Reflects value?
  /-- The store is a database if the address of one is given, and only then. -/
  database_iff : (∃ dsn, setup.backend = .database dsn) ↔ (value? .dsn).isSome = true
  /-- The token is the one that is given, if it is not blank. -/
  adminToken : ∀ token, setup.adminToken = some token ↔
    value? .adminToken = some token ∧ Text.isBlankText token = false

theorem Backend.Reflects.database_iff {value? : Setting → Option String} {backend : Backend}
    (h : backend.Reflects value?) :
    (∃ dsn, backend = .database dsn) ↔ (value? .dsn).isSome = true := by
  cases h with
  | database hdsn => simp [hdsn]
  | analytics hdsn => simp [hdsn]

section Setup

variable {g : Given} {s : Setting} {text : String} {url : Url} {backend : Backend} {setup : Setup}

theorem neededText_eq_ok_iff :
    neededText g s = .ok text ↔ g.get? s = some text ∧ Text.isBlankText text = false := by
  rw [← shownText?_eq_some_iff, neededText]
  rcases shownText? g s with _ | shown <;> simp

theorem exists_of_neededUrl (h : neededUrl g s = .ok url) :
    ∃ text, g.get? s = some text ∧ Url.parse text = .ok url := by
  obtain ⟨text, htext, hurl⟩ := exists_of_bind_eq_ok h
  refine ⟨text, (neededText_eq_ok_iff.1 htext).1, ?_⟩
  rcases hparse : Url.parse text with e | url'
  · rw [hparse] at hurl
    cases hurl
  · rw [hparse] at hurl
    exact congrArg Except.ok (Except.ok.inj hurl)

/-- The store is the one that is given, if no two are. -/
theorem reflects_of_givenBackend (h : givenBackend g = .ok backend)
    (hone : (g.get? .dsn).isSome = true → g.get? .countUrl = none) :
    backend.Reflects g.get? := by
  rw [givenBackend] at h
  rcases hdsn : shownText? g .dsn with _ | dsn
  · rw [hdsn] at h
    obtain ⟨countUrl, hcount, h⟩ := exists_of_bind_eq_ok h
    obtain ⟨searchUrl, hsearch, h⟩ := exists_of_bind_eq_ok h
    obtain ⟨username, husername, h⟩ := exists_of_bind_eq_ok h
    obtain ⟨password, hpassword, h⟩ := exists_of_bind_eq_ok h
    obtain rfl := Except.ok.inj h
    obtain ⟨count, hcount, hcountUrl⟩ := exists_of_neededUrl hcount
    obtain ⟨search, hsearch, hsearchUrl⟩ := exists_of_neededUrl hsearch
    obtain ⟨husername, husernameShown⟩ := neededText_eq_ok_iff.1 husername
    obtain ⟨hpassword, hpasswordShown⟩ := neededText_eq_ok_iff.1 hpassword
    -- Where sessions are counted is given, so no database is, not even a blank one.
    have hnone : g.get? .dsn = none := by
      rcases hget : g.get? .dsn with _ | dsn
      · rfl
      · rw [hone (by rw [hget]; rfl)] at hcount
        cases hcount
    exact .analytics hnone hcount hcountUrl hsearch hsearchUrl husername husernameShown hpassword
      hpasswordShown
  · rw [hdsn] at h
    obtain rfl := Except.ok.inj h
    obtain ⟨hget, hshown⟩ := shownText?_eq_some_iff.1 hdsn
    exact .database hget hshown (hone (by rw [hget]; rfl))

/-- A setup is made of settings that are admitted, of which no two are stores. -/
theorem Setup.reflects_of_ofGiven (h : ofGiven g = .ok setup) (hg : Admitted g)
    (hone : (g.get? .dsn).isSome = true → g.get? .countUrl = none) :
    setup.Reflects g.get? := by
  obtain ⟨backend, hbackend, rfl⟩ := exists_of_ofGiven h
  have hport : Chosen (fun text n => readPort? text = some n) defaultPort (g.get? .port)
      (givenPort g) := chosen_getD (hg .port) defaultPort
  have hlimit : Chosen (fun text limit => readLimit? text = some limit) defaultLimit
      (g.get? .sessionLimit) (givenLimit g) := chosen_getD (hg .sessionLimit) defaultLimit
  have hreflects := reflects_of_givenBackend hbackend hone
  exact {
    port := hport.map id fun hn => (readPort?_eq_some_iff.1 hn).1
    port_lt := hport.holds (fun hn => (readPort?_eq_some_iff.1 hn).2) (by decide)
    limit := hlimit.map SessionLimit.value fun hn => readLimit?_eq_some_iff.1 hn
    limit_range := ⟨(givenLimit g).pos, Nat.le_sub_one_of_lt (givenLimit g).value_lt⟩
    backend := hreflects
    database_iff := hreflects.database_iff
    adminToken := fun token => shownText?_eq_some_iff }

end Setup

variable {environment : String → Option String} {args : List String} {g : Given} {setup : Setup}

/-- What arguments and environment make is well-formed, however the arguments are taken for
    options: each option with a value is given once at most, and of every setting the
    option counts first, then the variable, then the default. -/
theorem Setup.reflects_of_read (hread : CommandLine.read environment args = .ok g)
    (hsetup : ofGiven g = .ok setup) :
    (∃ os, Spells args os) ∧ ∀ os, Spells args os →
      (∀ s : Setting, s.counts = false → os.countP (·.1 = s) ≤ 1) ∧
      setup.Reflects (settingValue os environment) ∧
      Chosen (fun text n => readVerbosity? text = some n) 0
        (settingValue os environment .verbosity) (givenVerbosity g) := by
  obtain ⟨given, hgiven, -, -⟩ := CommandLine.exists_of_read hread
  refine ⟨CommandLine.exists_spells hgiven, fun os hos => ⟨fun s hs => ?_, ?_⟩⟩
  · have htake := CommandLine.takeAll_of_spells hos hgiven
    simpa using CommandLine.once_of_takeAll hos.isOption hs htake
  have hvalues : g.get? = settingValue os environment := funext (CommandLine.get?_of_read hos hread)
  have hadmitted := CommandLine.admitted_of_read hread
  rw [← hvalues]
  exact ⟨reflects_of_ofGiven hsetup hadmitted (CommandLine.countUrl_of_read hread),
    chosen_getD (hadmitted .verbosity) 0⟩

/-- Arguments that leave most of the analytics service to the environment. -/
def sharedArguments : List String := ["-vv", "-l4", "--analytics-username", "admin", "--port=9090"]

/-- An environment with the rest of it, another port and a blank token. -/
def sharedEnvironment (name : String) : Option String :=
  [("SESSIONGATE_PORT", "80"), ("SESSIONGATE_ANALYTICS_COUNT_URL", "http://stats/count"),
    ("SESSIONGATE_ANALYTICS_SEARCH_URL", "http://stats/list"),
    ("SESSIONGATE_ANALYTICS_PASSWORD", "s3cret"), ("SESSIONGATE_ADMIN_TOKEN", " ")].lookup name

/-- The port is that of the arguments, and the blank token does not count. -/
theorem Setup.reflects_of_shared : ∃ g setup os,
    CommandLine.read sharedEnvironment sharedArguments = .ok g ∧ ofGiven g = .ok setup ∧
      Spells sharedArguments os ∧ setup.Reflects (settingValue os sharedEnvironment) ∧
      setup.port = 9090 ∧ setup.adminToken = none ∧ givenVerbosity g = 2 := by
  obtain ⟨g, setup, hread, hsetup, hport, htoken, hverbosity⟩ : ∃ g setup,
      CommandLine.read sharedEnvironment sharedArguments = .ok g ∧ ofGiven g = .ok setup ∧
        setup.port = 9090 ∧ setup.adminToken = none ∧ givenVerbosity g = 2 :=
    ⟨_, _, rfl, rfl, rfl, rfl, rfl⟩
  obtain ⟨⟨os, hos⟩, hall⟩ := reflects_of_read hread hsetup
  obtain ⟨-, hreflects, -⟩ := hall os hos
  exact ⟨g, setup, os, hread, hsetup, hos, hreflects, hport, htoken, hverbosity⟩

end LoginGate
