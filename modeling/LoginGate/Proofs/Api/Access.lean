import LoginGate.Proofs.Api.Answering

/-!
# Who may administer

A request *presents* a token if its first authorization header is a text of
printable characters and tabs that, apart from blanks around it, is the name of
the bearer scheme and the token, with any more blanks around the token. A
service is opened by a request that presents the token of the service, and by
nothing else: neither by a part of the token nor by more than it.

A token that a request presents has no blanks around it (`Presents.isTrimmed`)
and is not empty (`Presents.ne_empty`), because the space behind the name of the
scheme would have been trimmed. A service with any other token stays closed.
-/

namespace LoginGate

namespace Http.Header

/-! ### The texts of headers -/

/-- A character that the text of a header may have: it is printable ASCII or a
    tab. -/
def IsShown (c : Char) : Prop := (' ' ≤ c ∧ c ≤ '~') ∨ c = '\t'

theorem isShown_iff {c : Char} : IsShown c ↔ (32 ≤ c.toNat ∧ c.toNat ≤ 126) ∨ c.toNat = 9 := by
  rw [IsShown, Char.le_def, Char.le_def, UInt32.le_iff_toNat_le, UInt32.le_iff_toNat_le,
    ← Char.toNat_inj]
  exact Iff.rfl

theorem isTextByte_iff {b : UInt8} :
    isTextByte b = true ↔ (32 ≤ b.toNat ∧ b.toNat ≤ 126) ∨ b.toNat = 9 := by
  simp only [isTextByte, Bool.or_eq_true, Bool.and_eq_true, decide_eq_true_eq, beq_iff_eq,
    UInt8.le_iff_toNat_le, UInt8.lt_iff_toNat_lt, ← UInt8.toNat_inj]
  exact or_congr (and_congr_right fun _ => Nat.lt_succ_iff) Iff.rfl

/-- A character of ASCII is one byte, which is its number. -/
theorem ascii_ofNat : ∀ n < 128, (Char.ofNat n).toNat = n ∧
    String.utf8EncodeChar (Char.ofNat n) = [UInt8.ofNat n] := by decide

theorem isShown_of_isTextByte {b : UInt8} (h : isTextByte b = true) :
    IsShown (Char.ofNat b.toNat) ∧ String.utf8EncodeChar (Char.ofNat b.toNat) = [b] := by
  rw [isTextByte_iff] at h
  obtain ⟨hnumber, hbytes⟩ := ascii_ofNat b.toNat (by omega)
  rw [isShown_iff, hnumber, hbytes, UInt8.ofNat_toNat]
  exact ⟨h, rfl⟩

theorem isTextByte_of_isShown {c : Char} (h : IsShown c) :
    isTextByte (UInt8.ofNat c.toNat) = true ∧ (UInt8.ofNat c.toNat).toNat = c.toNat := by
  rw [isShown_iff] at h
  have hnumber : (UInt8.ofNat c.toNat).toNat = c.toNat := by
    rw [UInt8.toNat_ofNat', Nat.mod_eq_of_lt (by omega)]
  rw [isTextByte_iff, hnumber]
  exact ⟨h, rfl⟩

/-- Bytes of a text are those of the characters that they are taken for. -/
theorem utf8_map {value : List UInt8} (h : ∀ b ∈ value, isTextByte b = true) :
    Text.utf8 (String.ofList (value.map fun b => Char.ofNat b.toNat)) = value := by
  rw [Text.utf8, String.toList_ofList, List.flatMap_map]
  induction value with
  | nil => rfl
  | cons b value ih =>
    obtain ⟨hb, hvalue⟩ := List.forall_mem_cons.1 h
    rw [List.flatMap_cons, (isShown_of_isTextByte hb).2, ih hvalue]
    rfl

theorem text?_map {s : List Char} (h : ∀ c ∈ s, IsShown c) :
    text? (s.map fun c => UInt8.ofNat c.toNat) = some s := by
  rw [text?, if_pos, List.map_map]
  · refine congrArg some ((List.map_congr_left fun c hc => ?_).trans (List.map_id s))
    simp [(isTextByte_of_isShown (h c hc)).2]
  · rw [List.all_map, List.all_eq_true]
    exact fun c hc => (isTextByte_of_isShown (h c hc)).1

/-- The value of a header is a text if and only if it is the bytes of one whose
    characters are all shown. -/
theorem text?_eq_some_iff {value : List UInt8} {s : List Char} :
    text? value = some s ↔ value = Text.utf8 (String.ofList s) ∧ ∀ c ∈ s, IsShown c := by
  have hbytes {value : List UInt8} (h : text? value = some s) :
      value = Text.utf8 (String.ofList s) ∧ ∀ c ∈ s, IsShown c := by
    rw [text?] at h
    split at h
    · next hall =>
      rw [List.all_eq_true] at hall
      obtain rfl := Option.some.inj h
      refine ⟨(utf8_map hall).symm, fun c hc => ?_⟩
      obtain ⟨b, hb, rfl⟩ := List.mem_map.1 hc
      exact (isShown_of_isTextByte (hall b hb)).1
    · cases h
  refine ⟨hbytes, ?_⟩
  rintro ⟨rfl, hs⟩
  have h := text?_map hs
  rwa [(hbytes h).1] at h

theorem first?_eq_some_iff {name : String} {headers : List Header} {value : List UInt8} :
    first? name headers = some value ↔ ∃ before header after,
      headers = before ++ header :: after ∧ (∀ h ∈ before, h.name.toLower ≠ name.toLower) ∧
        header.name.toLower = name.toLower ∧ header.value = value := by
  rw [first?, Option.map_eq_some_iff]
  constructor
  · rintro ⟨header, hfind, rfl⟩
    obtain ⟨hname, before, after, rfl, hbefore⟩ := List.find?_eq_some_iff_append.1 hfind
    exact ⟨before, header, after, rfl, fun h hh => by simpa using hbefore h hh,
      beq_iff_eq.1 hname, rfl⟩
  · rintro ⟨before, header, after, rfl, hbefore, hname, rfl⟩
    refine ⟨header, List.find?_eq_some_iff_append.2 ⟨beq_iff_eq.2 hname, before, after, rfl, ?_⟩,
      rfl⟩
    exact fun h hh => by simpa using hbefore h hh

end Http.Header

open Http (Header)

namespace Api

/-! ### Presenting a token -/

/-- A request with these headers presents a token. -/
inductive Presents (token : String) : List Header → Prop
  /-- The first authorization header is a text, which gives the token after the
      name of the bearer scheme. -/
  | bearer {before after : List Header} {header : Header} {text rest : List Char}
    {scheme : String} :
    (∀ h ∈ before, h.name.toLower ≠ "authorization") →
    header.name.toLower = "authorization" →
    header.value = Text.utf8 (String.ofList text) → (∀ c ∈ text, Header.IsShown c) →
    scheme = "Bearer " ∨ scheme = "bearer " →
    Text.trim text = scheme.toList ++ rest →
    Text.utf8 (String.ofList (Text.trim rest)) = Text.utf8 token →
    Presents token (before ++ header :: after)

theorem bearerToken?_eq_some_iff {value token : List Char} :
    bearerToken? value = some token ↔
      ∃ scheme, (scheme = "Bearer " ∨ scheme = "bearer ") ∧
        ∃ rest, Text.trim value = scheme.toList ++ rest ∧ Text.trim rest = token := by
  have horElse {rest : List Char} :
      (Text.after? "Bearer ".toList (Text.trim value) <|>
          Text.after? "bearer ".toList (Text.trim value)) = some rest ↔
        ∃ scheme, (scheme = "Bearer " ∨ scheme = "bearer ") ∧
          Text.trim value = scheme.toList ++ rest := by
    rw [Option.orElse_eq_orElse, Option.orElse_eq_or, Option.or_eq_some_iff,
      Text.after?_eq_some_iff, Text.after?_eq_some_iff]
    constructor
    · rintro (h | ⟨-, h⟩)
      · exact ⟨_, .inl rfl, h⟩
      · exact ⟨_, .inr rfl, h⟩
    · rintro ⟨scheme, rfl | rfl, h⟩
      · exact .inl h
      · -- The names begin with different letters.
        refine .inr ⟨?_, h⟩
        rw [h]
        rfl
  rw [bearerToken?, Option.map_eq_some_iff]
  constructor
  · rintro ⟨rest, hrest, htoken⟩
    obtain ⟨scheme, hscheme, h⟩ := horElse.1 hrest
    exact ⟨scheme, hscheme, rest, h, htoken⟩
  · rintro ⟨scheme, hscheme, rest, h, htoken⟩
    exact ⟨rest, horElse.2 ⟨scheme, hscheme, h⟩, htoken⟩

variable {headers : List Header} {token : String}

/-- What a request presents is what is read as its token. -/
theorem presents_iff : Presents token headers ↔
    (Header.firstText? "authorization" headers).bind bearerToken? = some token.toList := by
  have hlower : "authorization".toLower = "authorization" := by decide +kernel
  rw [Header.firstText?, Option.bind_eq_some_iff]
  constructor
  · intro h
    cases h with
    | @bearer before after header text rest scheme hbefore hname hvalue hshown hscheme htrim
        htoken =>
      have hfirst : Header.first? "authorization" (before ++ header :: after) =
          some header.value := by
        rw [Header.first?_eq_some_iff, hlower]
        exact ⟨before, header, after, rfl, hbefore, hname, rfl⟩
      refine ⟨text, ?_, bearerToken?_eq_some_iff.2 ⟨scheme, hscheme, rest, htrim, ?_⟩⟩
      · rw [hfirst, Option.bind_some, Header.text?_eq_some_iff]
        exact ⟨hvalue, hshown⟩
      · rw [← Text.utf8_injective htoken, String.toList_ofList]
  · rintro ⟨text, htext, htoken⟩
    obtain ⟨value, hvalue, htext⟩ := Option.bind_eq_some_iff.1 htext
    obtain ⟨before, header, after, rfl, hbefore, hname, rfl⟩ :=
      Header.first?_eq_some_iff.1 hvalue
    obtain ⟨hbytes, hshown⟩ := Header.text?_eq_some_iff.1 htext
    obtain ⟨scheme, hscheme, rest, htrim, hrest⟩ := bearerToken?_eq_some_iff.1 htoken
    rw [hlower] at hbefore hname
    refine .bearer hbefore hname hbytes hshown hscheme htrim ?_
    rw [hrest, String.ofList_toList]

/-- A request presents one token at most. -/
theorem Presents.unique {other : String} (h : Presents token headers)
    (h' : Presents other headers) : other = token := by
  have heq := (presents_iff.1 h').symm.trans (presents_iff.1 h)
  exact String.toList_injective (Option.some.inj heq)

theorem Presents.isTrimmed (h : Presents token headers) : Text.IsTrimmed token.toList := by
  obtain ⟨-, -, -, -, -, -, htoken⟩ := h
  rw [← Text.utf8_injective htoken, String.toList_ofList]
  exact Text.isTrimmed_trim _

theorem Presents.isShown (h : Presents token headers) :
    ∀ c ∈ token.toList, Header.IsShown c := by
  obtain ⟨-, -, -, hshown, -, htrim, htoken⟩ := h
  intro c hc
  rw [← Text.utf8_injective htoken, String.toList_ofList] at hc
  refine hshown c (Text.mem_of_mem_trim ?_)
  rw [htrim]
  exact List.mem_append_right _ (Text.mem_of_mem_trim hc)

/-- The space behind the name of the scheme is kept only in front of a token. -/
theorem Presents.ne_empty (h : Presents token headers) : token ≠ "" := by
  obtain ⟨-, -, -, -, hscheme, htrim, htoken⟩ := h
  rintro rfl
  have hnil := congrArg String.toList (Text.utf8_injective htoken)
  rw [String.toList_ofList, String.toList_empty, Text.trim_eq_nil_iff] at hnil
  have htrimmed := htrim ▸ Text.isTrimmed_trim _
  have hspace : ∀ c ∈ ' ' :: _, Text.isBlank c = true :=
    List.forall_mem_cons.2 ⟨by decide, hnil⟩
  rcases hscheme with rfl | rfl
  · cases htrimmed.eq_nil_of_blank (s := "Bearer".toList) hspace
  · cases htrimmed.eq_nil_of_blank (s := "bearer".toList) hspace

/-! ### The service -/

variable {σ : Type}

theorem authorizes_iff {api : Api σ} : api.authorizes headers = true ↔
    ∃ token, api.adminToken = some token ∧ Presents token headers := by
  rw [authorizes]
  cases htoken : api.adminToken with
  | none => simp
  | some expected =>
    cases hgiven : (Header.firstText? "authorization" headers).bind bearerToken? with
    | none => simp [presents_iff, hgiven]
    | some given =>
      dsimp only
      rw [tokensMatch_iff]
      constructor
      · intro h
        refine ⟨expected, rfl, presents_iff.2 ?_⟩
        rw [hgiven, ← Text.utf8_injective h, String.toList_ofList]
      · rintro ⟨token, htoken, h⟩
        obtain rfl := Option.some.inj htoken
        rw [presents_iff, hgiven] at h
        rw [Option.some.inj h, String.ofList_toList]

/-- A service is opened by the requests that present its token and by no others.
    So the token of a service that can be opened is not empty, consists of
    printable characters and tabs, and has no blanks around it: an empty or blank
    token keeps the service closed, and no other text opens it. -/
theorem opened_by_own_token (api : Api σ) (headers : List Header) :
    (api.authorizes headers = true ↔
        ∃ token, api.adminToken = some token ∧ Presents token headers) ∧
      ∀ token, api.adminToken = some token →
        (api.authorizes headers = true → token ≠ "" ∧
          (∀ c ∈ token.toList, Header.IsShown c) ∧ Text.IsTrimmed token.toList) ∧
        (Text.isBlankText token = true → api.authorizes headers = false) ∧
        ∀ other, Presents other headers → other ≠ token → api.authorizes headers = false := by
  refine ⟨authorizes_iff, fun token htoken => ?_⟩
  have hpresents : api.authorizes headers = true → Presents token headers := by
    intro h
    obtain ⟨token', htoken', hpresents⟩ := authorizes_iff.1 h
    obtain rfl := Option.some.inj (htoken.symm.trans htoken')
    exact hpresents
  refine ⟨fun h => ?_, fun hblank => ?_, fun other hother hne => ?_⟩
  · exact ⟨(hpresents h).ne_empty, (hpresents h).isShown, (hpresents h).isTrimmed⟩
  · rw [← Bool.not_eq_true]
    intro h
    have hnil := (hpresents h).isTrimmed.eq_nil_of_blank (s := [])
      (List.all_eq_true.1 hblank)
    exact (hpresents h).ne_empty (String.toList_eq_nil_iff.1 hnil)
  · rw [← Bool.not_eq_true]
    exact fun h => hne ((hpresents h).unique hother)

/-- A token is presented with blanks around it, before another one. -/
def paddedHeaders : List Header :=
  [.ofText "Host" "localhost", .ofText "Authorization" "\tbearer  s3cret ",
    .ofText "authorization" "Bearer other"]

/-- It opens the service of which it is the token, and none with a longer one. -/
theorem opened_by_paddedHeaders :
    (inMemory none ⟨2, by decide, by decide⟩ "s3cret").authorizes paddedHeaders = true ∧
      (inMemory none ⟨2, by decide, by decide⟩ "s3cret2").authorizes paddedHeaders = false := by
  have hpadded : Presents "s3cret" paddedHeaders := presents_iff.2 (by decide +kernel)
  obtain ⟨hopened, -⟩ :=
    opened_by_own_token (inMemory none ⟨2, by decide, by decide⟩ "s3cret") paddedHeaders
  obtain ⟨-, hclosed⟩ :=
    opened_by_own_token (inMemory none ⟨2, by decide, by decide⟩ "s3cret2") paddedHeaders
  refine ⟨hopened.2 ⟨_, rfl, hpadded⟩, ?_⟩
  obtain ⟨-, -, hother⟩ := hclosed "s3cret2" rfl
  exact hother "s3cret" hpadded (by decide)

end Api

end LoginGate
