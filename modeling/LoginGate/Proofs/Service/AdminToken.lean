import LoginGate.CommandLine.Arguments
import LoginGate.Proofs.Api.Access
import LoginGate.Service.Startup

/-!
# The token that a setup is given

The command line keeps every token that is not blank, as it is given, and the
service is then said to be open for administration. A request presents a token
by what is left of its header after trimming, and only if the header is a text.
So the token that is kept need not be one that can be presented: it opens the
service if and only if it is plain, and otherwise nothing does.

* `bearer_presents_iff`: the header of a token presents it if the token is plain;
* `opened_iff_isPlain`: what this means for the service of a setup.
-/

namespace LoginGate

open Http (Header)

/-- A header can carry the text: of the control characters it has tabs at most. -/
def Http.Header.Carries (text : String) : Prop :=
  ∀ c ∈ text.toList, (32 ≤ c.toNat ∧ c.toNat ≠ 127) ∨ c = '\t'

instance (text : String) : Decidable (Http.Header.Carries text) :=
  List.decidableBAll _ text.toList

/-- The token has no blanks around it, and no characters but those of ASCII. -/
structure IsPlainToken (token : String) : Prop where
  /-- There are no blanks around it. -/
  trimmed : Text.IsTrimmed token.toList
  /-- Every character is one of ASCII. -/
  ascii : ∀ c ∈ token.toList, c.toNat < 128

theorem isPlainToken_iff {token : String} : IsPlainToken token ↔
    Text.trim token.toList = token.toList ∧ token.toList.all (·.toNat < 128) = true := by
  rw [List.all_eq_true]
  simp only [decide_eq_true_eq]
  constructor
  · intro h
    exact ⟨h.trimmed.trim_eq, h.ascii⟩
  · rintro ⟨htrim, hascii⟩
    exact ⟨htrim ▸ Text.isTrimmed_trim _, hascii⟩

instance (token : String) : Decidable (IsPlainToken token) :=
  decidable_of_iff' _ isPlainToken_iff

namespace Api

variable {σ : Type} {api : Api σ} {headers : List Header} {token : String}

/-! ### Tokens and headers -/

theorem isShown_of_carries (hcarries : Header.Carries token)
    (hascii : ∀ c ∈ token.toList, c.toNat < 128) : ∀ c ∈ token.toList, Header.IsShown c := by
  intro c hc
  rw [Header.isShown_iff]
  have hlt := hascii c hc
  rcases hcarries c hc with ⟨hle, hne⟩ | rfl
  · exact .inl ⟨hle, by omega⟩
  · exact .inr rfl

/-- A token that is presented is plain, however it is presented. -/
theorem Presents.isPlainToken (h : Presents token headers) : IsPlainToken token where
  trimmed := h.isTrimmed
  ascii c hc := by
    have hshown := Header.isShown_iff.1 (h.isShown c hc)
    omega

/-- A token that a header can carry is presented by its header if and only if it is
    plain. -/
theorem bearer_presents_iff (hne : token ≠ "") (hcarries : Header.Carries token)
    (hfirst : Header.first? "authorization" headers =
      some (Text.utf8 "Bearer " ++ Text.utf8 token)) :
    Presents token headers ↔ IsPlainToken token := by
  refine ⟨Presents.isPlainToken, fun h => ?_⟩
  have hchars : token.toList ≠ [] := mt String.toList_eq_nil_iff.1 hne
  have hshown : ∀ c ∈ "Bearer ".toList ++ token.toList, Header.IsShown c :=
    List.forall_mem_append.2
      ⟨by simp [Header.isShown_iff],
        isShown_of_carries hcarries h.ascii⟩
  have hbytes : Text.utf8 "Bearer " ++ Text.utf8 token =
      Text.utf8 (String.ofList ("Bearer ".toList ++ token.toList)) := by
    simp only [Text.utf8, String.toList_ofList, List.flatMap_append]
  have htrim : Text.trim ("Bearer ".toList ++ token.toList) = "Bearer ".toList ++ token.toList :=
    (h.trimmed.append hchars (by rintro c ⟨⟩; rfl)).trim_eq
  rw [presents_iff, Header.firstText?, hfirst, Option.bind_some, hbytes,
    Header.text?_eq_some_iff.2 ⟨rfl, hshown⟩, Option.bind_some, bearerToken?_eq_some_iff]
  exact ⟨"Bearer ", .inl rfl, token.toList, htrim, h.trimmed.trim_eq⟩

/-- A service with another token is closed. -/
theorem authorizes_of_not_isPlainToken (htoken : api.adminToken = some token)
    (h : ¬IsPlainToken token) (headers : List Header) : api.authorizes headers = false := by
  rw [← Bool.not_eq_true, authorizes_iff]
  rintro ⟨token', htoken', hpresents⟩
  obtain rfl := Option.some.inj (htoken.symm.trans htoken')
  exact h hpresents.isPlainToken

end Api

/-! ### The service of a setup -/

namespace Setup

variable {g : Given} {setup : Setup} {token : String}

/-- The token of a setup is the one that is given. It is not blank, and otherwise as
    it may be. -/
theorem adminToken_of_ofGiven (h : ofGiven g = .ok setup) :
    setup.adminToken = shownText? g .adminToken := by
  obtain ⟨backend, -, rfl⟩ := exists_of_ofGiven h
  rfl

theorem ne_empty_of_ofGiven (h : ofGiven g = .ok setup) (htoken : setup.adminToken = some token) :
    token ≠ "" := by
  rintro rfl
  rw [adminToken_of_ofGiven h, shownText?_eq_some_iff] at htoken
  exact absurd htoken.2 (by decide)

theorem adminToken_of_api [Http.Charsets] {σ : Type} {around : Surroundings σ} {s s' : σ}
    {api : Api σ} (h : setup.api around s = (.ok api, s')) : api.adminToken = setup.adminToken := by
  rw [Setup.api] at h
  split at h
  · cases h
    rfl
  · split at h
    · cases h
      rfl
    · cases h

/-- The administration of a setup with a token is said to be open. -/
theorem enabled_of_adminToken (h : setup.adminToken = some token) :
    ("admin_routes", "enabled") ∈ setup.entries := by
  rw [entries, h]
  simp

/-- With a token that a header can carry, the administration is said to be open, and
    the header of the token opens it if and only if the token is plain. If it is not,
    no request does. -/
theorem opened_iff_isPlain [Http.Charsets] (hsetup : ofGiven g = .ok setup)
    (htoken : setup.adminToken = some token) (hcarries : Header.Carries token) :
    ("admin_routes", "enabled") ∈ setup.entries ∧
      ∀ {σ : Type} (around : Surroundings σ) (s s' : σ) (api : Api σ),
        setup.api around s = (.ok api, s') → ∀ headers : List Header,
        (Header.first? "authorization" headers =
            some (Text.utf8 "Bearer " ++ Text.utf8 token) →
          (api.authorizes headers = true ↔ IsPlainToken token)) ∧
        (¬IsPlainToken token → api.authorizes headers = false) := by
  refine ⟨enabled_of_adminToken htoken, fun around s s' api hapi headers => ?_⟩
  have hown : api.adminToken = some token := (adminToken_of_api hapi).trans htoken
  refine ⟨fun hfirst => ?_, fun h => Api.authorizes_of_not_isPlainToken hown h headers⟩
  rw [Api.authorizes_iff, hown,
    ← Api.bearer_presents_iff (ne_empty_of_ofGiven hsetup htoken) hcarries hfirst]
  simp

/-- Surroundings with a database that has no rows. -/
def emptySurroundings : Surroundings Unit where
  transport _ s := (.silence, s)
  connect _ s :=
    let database : Database Unit :=
      ⟨fun s => (true, s), fun s => (true, s), fun _ s => (some 0, s), fun _ s => (some [], s),
        fun _ s => (some 0, s)⟩
    (some database, s)

/-- A command line with a token. -/
def tokenArguments (token : String) : List String :=
  ["--dsn", "postgres://db/main", "--admin-token", token]

/-- The command line with a token makes a setup of it, in these surroundings. -/
def Accepts (token : String) (setup : Setup) (api : Api Unit) : Prop :=
  ∃ g, CommandLine.read (fun _ => none) (tokenArguments token) = .ok g ∧ ofGiven g = .ok setup ∧
    setup.adminToken = some token ∧ setup.api emptySurroundings () = (.ok api, ())

/-- A blank inside a token does no harm, and its header opens the service. A letter
    with an accent keeps everybody out. -/
theorem opened_of_innerBlank :
    (∃ setup api, Accepts "s3 cret" setup api ∧
      api.authorizes [.ofText "Authorization" "Bearer s3 cret"] = true) ∧
    ∃ setup api, Accepts "cl\u00e9" setup api ∧ ∀ headers, api.authorizes headers = false := by
  obtain ⟨setup, api, hopen⟩ : ∃ setup api, Accepts "s3 cret" setup api :=
    ⟨_, _, _, rfl, rfl, rfl, rfl⟩
  obtain ⟨setup', api', hclosed⟩ : ∃ setup api, Accepts "cl\u00e9" setup api :=
    ⟨_, _, _, rfl, rfl, rfl, rfl⟩
  refine ⟨⟨setup, api, hopen, ?_⟩, ⟨setup', api', hclosed, fun headers => ?_⟩⟩
  · obtain ⟨g, -, hsetup, htoken, hapi⟩ := hopen
    obtain ⟨-, h⟩ := opened_iff_isPlain hsetup htoken (by decide)
    have hplain : IsPlainToken "s3 cret" := by decide
    exact ((h _ _ _ _ hapi _).1 (by decide +kernel)).2 hplain
  · obtain ⟨g, -, hsetup, htoken, hapi⟩ := hclosed
    obtain ⟨-, h⟩ := opened_iff_isPlain hsetup htoken (by decide)
    have hplain : ¬IsPlainToken "cl\u00e9" := by decide
    exact (h _ _ _ _ hapi headers).2 hplain

/-- With a blank behind the token, the administration is said to be open, and not even
    the header of the token opens it. -/
theorem closed_of_trailingBlank : ∃ setup api, Accepts "s3cret " setup api ∧
    ("admin_routes", "enabled") ∈ setup.entries ∧ Header.Carries "s3cret " ∧
    api.authorizes [.ofText "Authorization" "Bearer s3cret "] = false := by
  obtain ⟨setup, api, h⟩ : ∃ setup api, Accepts "s3cret " setup api :=
    ⟨_, _, _, rfl, rfl, rfl, rfl⟩
  refine ⟨setup, api, h, ?_, by decide, ?_⟩
  · obtain ⟨g, -, -, htoken, -⟩ := h
    exact enabled_of_adminToken htoken
  · obtain ⟨g, -, -, htoken, hapi⟩ := h
    have hplain : ¬IsPlainToken "s3cret " := by decide
    exact Api.authorizes_of_not_isPlainToken ((adminToken_of_api hapi).trans htoken) hplain _

end Setup

end LoginGate
