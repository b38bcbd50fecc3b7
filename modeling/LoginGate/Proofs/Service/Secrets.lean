import LoginGate.Proofs.CommandLine.Likeness
import LoginGate.Service.Startup

/-!
# The start-up message keeps secrets

What is said when the service starts does not depend on the secrets that it was
given: neither on the token of the administration nor on the password of the
analytics service, nor on the password in the address of the database
(`startupLine_keeps_secrets`). Whether there is a token can be seen, and so can
everything in the address but the password, whatever characters the password has.
-/

namespace LoginGate

open CommandLine

/-! ### Addresses of databases -/

/-- The password is all that is not shown of an address. -/
theorem redactDsn_text {d d' : Url.Dsn} (huser : d.user = d'.user) (hrest : d.rest = d'.rest) :
    redactDsn d.text = redactDsn d'.text := by
  obtain ⟨encoded, hparse⟩ := d.parse_text
  obtain ⟨encoded', hparse'⟩ := d'.parse_text
  rw [redactDsn, redactDsn, hparse, hparse', huser, hrest]
  cases Url.foundHost (Url.hostOf d'.rest) <;> rfl

theorem redactDsn_eq {dsn dsn' : String} (h : AlikeValues .dsn dsn dsn') :
    redactDsn dsn = redactDsn dsn' := by
  cases h with
  | same => rfl
  | dsn huser hrest => exact redactDsn_text huser hrest

theorem redactDsn_of_error {dsn : String} {e : UrlError} (h : Url.parse dsn = .error e) :
    redactDsn dsn = "invalid-dsn" := by
  rw [redactDsn, h]

/-! ### Setups -/

theorem CommandLine.AlikeValues.isBlankText_eq {s : Setting} {value value' : String}
    (h : AlikeValues s value value') : Text.isBlankText value = Text.isBlankText value' := by
  have hdsn (d : Url.Dsn) : Text.isBlankText d.text = false := by
    simp [Text.isBlankText, Url.Dsn.text, show Text.isBlank 'p' = false by decide]
  cases h with
  | same => rfl
  | token h h' => rw [h, h']
  | password h h' => rw [h, h']
  | dsn => rw [hdsn, hdsn]

/-- Two stores are the same but for secrets. -/
inductive AlikeBackends : Backend → Backend → Prop
  | database {dsn dsn' : String} (h : AlikeValues .dsn dsn dsn') :
    AlikeBackends (.database dsn) (.database dsn')
  | analytics {service service' : Analytics} (h : service.countUrl = service'.countUrl) :
    AlikeBackends (.analytics service) (.analytics service')

/-- Two setups are the same but for secrets. -/
structure AlikeSetups (setup setup' : Setup) : Prop where
  /-- They have the same port. -/
  port : setup.port = setup'.port
  /-- They have the same limit. -/
  sessionLimit : setup.sessionLimit = setup'.sessionLimit
  /-- They have stores that are alike. -/
  backend : AlikeBackends setup.backend setup'.backend
  /-- Both have a token, or none does. -/
  adminToken : setup.adminToken.isSome = setup'.adminToken.isSome

section AlikeGivens

variable {g g' : Given} (h : AlikeGivens g g')
include h

theorem CommandLine.AlikeGivens.shownText? (s : Setting) :
    AlikeOptions s (shownText? g s) (shownText? g' s) := by
  rw [LoginGate.shownText?, LoginGate.shownText?]
  generalize g.get? s = value, g'.get? s = value', h s = hs
  cases hs with
  | none => exact .none
  | some hs =>
    rw [Option.filter_some, Option.filter_some, hs.isBlankText_eq]
    split
    · exact .some hs
    · exact .none

theorem CommandLine.AlikeGivens.neededUrl {s : Setting} (hs : holdsSecret s = false) :
    neededUrl g s = neededUrl g' s := by
  rw [LoginGate.neededUrl, LoginGate.neededUrl, neededText, neededText,
    LoginGate.shownText?, LoginGate.shownText?, h.get?_eq hs]

theorem CommandLine.AlikeGivens.backend :
    BothOk AlikeBackends (givenBackend g) (givenBackend g') := by
  rw [givenBackend, givenBackend]
  generalize LoginGate.shownText? g .dsn = dsn, LoginGate.shownText? g' .dsn = dsn',
    h.shownText? .dsn = hdsn
  cases hdsn with
  | some hdsn => exact .ok (.database hdsn)
  | none =>
    -- Of all that is given, only the address that counts is shown.
    dsimp only
    rw [h.neededUrl rfl]
    refine (BothOk.refl _).bind fun countUrl countUrl' hcount => ?_
    have hany {α : Type} {x y : Except SetupError α} : BothOk (fun _ _ => True) x y :=
      fun _ _ _ _ => trivial
    refine hany.bind fun _ _ _ => hany.bind fun _ _ _ => hany.bind fun _ _ _ => ?_
    exact .ok (.analytics hcount)

theorem CommandLine.AlikeGivens.setup :
    BothOk AlikeSetups (Setup.ofGiven g) (Setup.ofGiven g') := by
  refine h.backend.bind fun b b' hb => .ok ⟨?_, ?_, hb, ?_⟩
  · rw [givenPort, givenPort, h.get?_eq rfl]
  · rw [givenLimit, givenLimit, h.get?_eq rfl]
  · exact (h.shownText? .adminToken).isSome_eq

end AlikeGivens

theorem AlikeSetups.startupLine_eq {setup setup' : Setup} (h : AlikeSetups setup setup') :
    setup.startupLine = setup'.startupLine := by
  have hbackend : setup.backendText = setup'.backendText := by
    rw [Setup.backendText, Setup.backendText]
    generalize setup.backend = backend, setup'.backend = backend', h.backend = hb
    cases hb with
    | database hdsn => exact congrArg ("postgres " ++ ·) (redactDsn_eq hdsn)
    | analytics hcount => exact congrArg (fun url : Url => "analytics " ++ url.text) hcount
  rw [Setup.startupLine, Setup.startupLine, Setup.startupMessage, Setup.startupMessage,
    Setup.entries, Setup.entries, h.port, h.sessionLimit, hbackend, h.adminToken]

/-- If two command lines with their environments are the same but for secrets and both
    make a setup, the same is said when the service starts. Of the address of a
    database the password is left out, and of a text that is no address everything. -/
theorem startupLine_keeps_secrets :
    (∀ (environment environment' : String → Option String) (args args' : List String)
        (g g' : Given) (setup setup' : Setup),
        AlikeEnvironments environment environment' → AlikeArguments args args' →
        CommandLine.read environment args = .ok g → CommandLine.read environment' args' = .ok g' →
        Setup.ofGiven g = .ok setup → Setup.ofGiven g' = .ok setup' →
        setup.startupLine = setup'.startupLine) ∧
      (∀ d d' : Url.Dsn, d.user = d'.user → d.rest = d'.rest →
        redactDsn d.text = redactDsn d'.text) ∧
      ∀ (setup : Setup) (dsn : String) (e : UrlError), setup.backend = .database dsn →
        Url.parse dsn = .error e →
        redactDsn dsn = "invalid-dsn" ∧ setup.backendText = "postgres invalid-dsn" := by
  refine ⟨?_, fun d d' huser hrest => redactDsn_text huser hrest, fun setup dsn e hb he => ?_⟩
  · intro environment environment' args args' g g' setup setup' he ha hg hg' hs hs'
    have hgivens : AlikeGivens g g' := alike_read he ha g g' hg hg'
    exact (hgivens.setup setup setup' hs hs').startupLine_eq
  · refine ⟨redactDsn_of_error he, ?_⟩
    rw [Setup.backendText, hb]
    exact congrArg ("postgres " ++ ·) (redactDsn_of_error he)

/-- An environment with a token. -/
def tokenEnvironment (token : String) (name : String) : Option String :=
  if name = Setting.adminToken.variableName then some token else none

/-- An address of a database. -/
def simpleDsn : Url.Dsn where
  user := "app".toList
  password := "secret".toList
  rest := "db:5432/main?sslmode=require".toList
  user_stands := by decide
  password_stands := by decide
  password_ne_nil := by decide
  user_ends := by decide

/-- The same address with a password that looks like more than one. -/
def oddDsn : Url.Dsn :=
  { simpleDsn with
    password := "se:cr@et%".toList
    password_stands := by decide
    password_ne_nil := by decide }

/-- Both are shown alike. -/
theorem startupLine_of_oddDsn : ∃ g g' setup setup',
    CommandLine.read (tokenEnvironment "one") ["--dsn", simpleDsn.text] = .ok g ∧
    CommandLine.read (tokenEnvironment "two") ["--dsn", oddDsn.text] = .ok g' ∧
    Setup.ofGiven g = .ok setup ∧ Setup.ofGiven g' = .ok setup' ∧
    setup.startupLine = setup'.startupLine := by
  obtain ⟨g, hg, setup, hs⟩ : ∃ g, CommandLine.read (tokenEnvironment "one")
      ["--dsn", simpleDsn.text] = .ok g ∧ ∃ setup, Setup.ofGiven g = .ok setup :=
    ⟨_, rfl, _, rfl⟩
  obtain ⟨g', hg', setup', hs'⟩ : ∃ g, CommandLine.read (tokenEnvironment "two")
      ["--dsn", oddDsn.text] = .ok g ∧ ∃ setup, Setup.ofGiven g = .ok setup :=
    ⟨_, rfl, _, rfl⟩
  have he : AlikeEnvironments (tokenEnvironment "one") (tokenEnvironment "two") := by
    intro s
    cases s
    case adminToken => exact .some (.token (by decide) (by decide))
    all_goals exact .refl _ _
  have ha : AlikeArguments ["--dsn", simpleDsn.text] ["--dsn", oddDsn.text] :=
    .apart (.name .dsn rfl) (.dsn rfl rfl) .nil
  exact ⟨g, g', setup, setup', hg, hg', hs, hs',
    startupLine_keeps_secrets.1 _ _ _ _ _ _ _ _ he ha hg hg' hs hs'⟩

end LoginGate
