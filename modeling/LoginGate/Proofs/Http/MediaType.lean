import LoginGate.Http.MediaType
import LoginGate.Text.Blank
import Mathlib.Data.List.TakeWhile

/-!
# How media types are written

A media type is a type and a subtype with a slash between them, and after a semicolon
its parameters (`MediaType.Written`). These are written one after another, with
semicolons between them and any spaces before them, and a value that holds other
characters than those of tokens stands between quotes (`SpellsParameters`).

* `parameters?_eq_some_iff`: the texts of parameters, and what they are read as;
* `MediaType.parse?_eq_some_iff`: the same for media types.
-/

namespace LoginGate.Http

/-- The text is a token: a name, or a value without quotes. -/
def IsToken (s : List Char) : Prop := s ≠ [] ∧ ∀ c ∈ s, isTokenChar c = true

/-- The text may stand between quotes. A quote ends it unless it comes first or after
    a backslash. -/
inductive IsQuoted : List Char → Prop
  /-- A single character. -/
  | single {c : Char} : isQuotedChar c = true → c ≠ '\\' → IsQuoted [c]
  /-- A single character after a backslash. -/
  | singlePair {c : Char} : isQuotedChar c = true → IsQuoted ['\\', c]
  /-- Another character. -/
  | char {v : List Char} {c : Char} :
    IsQuoted v → isQuotedChar c = true → c ≠ '"' → c ≠ '\\' → IsQuoted (v ++ [c])
  /-- Another character after a backslash. -/
  | pair {v : List Char} {c : Char} :
    IsQuoted v → isQuotedChar c = true → IsQuoted (v ++ ['\\', c])

/-- The text spells the parameters. -/
inductive SpellsParameters : List Char → List Parameter → Prop
  /-- There is none. -/
  | nil : SpellsParameters [] []
  /-- A space may stand before any. -/
  | blank {s : List Char} {l : List Parameter} :
    SpellsParameters s l → SpellsParameters (' ' :: s) l
  /-- The last one may be without a value. -/
  | bare {n : List Char} : IsToken n → SpellsParameters (n ++ ['=']) [⟨n, []⟩]
  /-- The last one has a value without quotes. -/
  | lastToken {n v : List Char} :
    IsToken n → IsToken v → SpellsParameters (n ++ '=' :: v) [⟨n, v⟩]
  /-- One with a value without quotes. -/
  | token {n v s : List Char} {l : List Parameter} :
    IsToken n → IsToken v → SpellsParameters s l →
    SpellsParameters (n ++ '=' :: (v ++ ';' :: s)) (⟨n, v⟩ :: l)
  /-- The last one has a quoted value. -/
  | lastQuoted {n v : List Char} (blanks : Nat) :
    IsToken n → IsQuoted v →
    SpellsParameters (n ++ '=' :: '"' :: (v ++ '"' :: List.replicate blanks ' ')) [⟨n, v⟩]
  /-- One with a quoted value. -/
  | quoted {n v s : List Char} {l : List Parameter} (blanks : Nat) :
    IsToken n → IsQuoted v → SpellsParameters s l →
    SpellsParameters (n ++ '=' :: '"' :: (v ++ '"' :: (List.replicate blanks ' ' ++ ';' :: s)))
      (⟨n, v⟩ :: l)

variable {n v w s : List Char} {c : Char} {l : List Parameter}

/-! ### What is read -/

namespace ParameterPlace

/-- What follows at a place is the rest of parameters. -/
def Admits : ParameterPlace → List Char → List Parameter → Prop
  | .before, s, l => SpellsParameters s l
  | .name n, s, l => IsToken n → SpellsParameters (n ++ s) l
  | .value n, s, l => IsToken n → SpellsParameters (n ++ '=' :: s) l
  | .token n v, s, l => IsToken n → IsToken v → SpellsParameters (n ++ '=' :: (v ++ s)) l
  | .opened n, s, l => IsToken n → SpellsParameters (n ++ '=' :: '"' :: s) l
  | .quoted n v, s, l =>
    IsToken n → IsQuoted v → SpellsParameters (n ++ '=' :: '"' :: (v ++ s)) l
  | .escaped n v, s, l => IsToken n → ∀ w, v = w ++ ['\\'] → w = [] ∨ IsQuoted w →
    SpellsParameters (n ++ '=' :: '"' :: (v ++ s)) l
  | .closed, s, l => (∃ blanks, s = List.replicate blanks ' ' ∧ l = []) ∨
    ∃ blanks s', s = List.replicate blanks ' ' ++ ';' :: s' ∧ SpellsParameters s' l

end ParameterPlace

theorem IsToken.append (h : IsToken n) (hc : isTokenChar c = true) : IsToken (n ++ [c]) := by
  refine ⟨by simp, fun d hd => ?_⟩
  rcases List.mem_append.1 hd with hd | hd
  · exact h.2 d hd
  · exact List.mem_singleton.1 hd ▸ hc

/-- What stands before a backslash is quoted with it and the character after it. -/
theorem isQuoted_pair (h : w = [] ∨ IsQuoted w) (hc : isQuotedChar c = true) :
    IsQuoted (w ++ ['\\', c]) := by
  rcases h with rfl | h
  · exact .singlePair hc
  · exact .pair h hc

theorem isToken_singleton (hc : isTokenChar c = true) : IsToken [c] :=
  ⟨List.cons_ne_nil _ _, fun _ hd => List.mem_singleton.1 hd ▸ hc⟩

/-- Where parameters are read, they are spelled. The induction is on the text, for all
    places at once: each character leads from its place to the next. -/
theorem admits_of_parameters? {place : ParameterPlace} (h : place.parameters? s = some l) :
    place.Admits s l := by
  induction s generalizing place l with
  | nil =>
    cases place with
    | before =>
      cases h
      exact .nil
    | closed =>
      cases h
      exact .inl ⟨0, rfl, rfl⟩
    | value n =>
      cases h
      exact fun hn => .bare hn
    | token n v =>
      cases h
      intro hn hv
      rw [List.append_nil]
      exact .lastToken hn hv
    | name | opened | quoted | escaped => cases h
  | cons c s ih =>
    cases place with
    | before =>
      rw [ParameterPlace.parameters?] at h
      split at h
      · next hc => exact hc ▸ .blank (ih h)
      split at h
      · next hc => exact ih h (isToken_singleton hc)
      · cases h
    | name n =>
      rw [ParameterPlace.parameters?] at h
      split at h
      · next hc => exact hc ▸ ih h
      split at h
      · next hc =>
        intro hn
        rw [List.append_cons]
        exact ih h (hn.append hc)
      · cases h
    | value n =>
      rw [ParameterPlace.parameters?] at h
      split at h
      · next hc => exact hc ▸ ih h
      split at h
      · next hc => exact fun hn => ih h hn (isToken_singleton hc)
      · cases h
    | token n v =>
      rw [ParameterPlace.parameters?] at h
      split at h
      · next hc =>
        obtain ⟨l, hl, rfl⟩ := Option.map_eq_some_iff.1 h
        exact fun hn hv => hc ▸ .token hn hv (ih hl)
      split at h
      · next hc =>
        intro hn hv
        rw [List.append_cons v]
        exact ih h hn (hv.append hc)
      · cases h
    | opened n =>
      rw [ParameterPlace.parameters?] at h
      split at h
      · next hc => exact fun hn => hc ▸ ih h hn [] (hc ▸ rfl) (.inl rfl)
      split at h
      -- A quote that comes first is a character like any other.
      · next hslash hc => exact fun hn => ih h hn (.single hc hslash)
      · cases h
    | quoted n v =>
      rw [ParameterPlace.parameters?] at h
      split at h
      · next hc =>
        obtain ⟨l, hl, rfl⟩ := Option.map_eq_some_iff.1 h
        intro hn hv
        obtain ⟨blanks, rfl, rfl⟩ | ⟨blanks, s', rfl, hs'⟩ := ih hl
        · exact hc ▸ .lastQuoted blanks hn hv
        · exact hc ▸ .quoted blanks hn hv hs'
      split at h
      · next hc =>
        intro hn hv
        rw [List.append_cons v]
        exact ih h hn v (hc ▸ rfl) (.inr hv)
      split at h
      · next hquote hslash hc =>
        intro hn hv
        rw [List.append_cons v]
        exact ih h hn (.char hv hc hquote hslash)
      · cases h
    | escaped n v =>
      rw [ParameterPlace.parameters?] at h
      split at h
      · next hc =>
        -- The backslash is the last character so far.
        rintro hn w rfl hw
        have hq : IsQuoted (w ++ ['\\'] ++ [c]) := by
          rw [List.append_assoc]
          exact isQuoted_pair hw hc
        rw [List.append_cons (w ++ ['\\'])]
        exact ih h hn hq
      · cases h
    | closed =>
      rw [ParameterPlace.parameters?] at h
      split at h
      · next hc => exact .inr ⟨0, s, hc ▸ rfl, ih h⟩
      split at h
      · next hc =>
        obtain ⟨blanks, rfl, rfl⟩ | ⟨blanks, s', rfl, hs'⟩ := ih h
        · exact .inl ⟨blanks + 1, hc ▸ rfl, rfl⟩
        · exact .inr ⟨blanks + 1, s', hc ▸ rfl, hs'⟩
      · cases h

/-! ### What is spelled -/

theorem not_isTokenChar : isTokenChar ' ' = false ∧ isTokenChar '=' = false ∧
    isTokenChar '"' = false ∧ isTokenChar ';' = false := by decide

namespace ParameterPlace

/-- What is gathered character by character is gathered at once. -/
theorem parameters?_append (place : List Char → ParameterPlace)
    (hstep : ∀ v c s, isTokenChar c = true →
      parameters? (place v) (c :: s) = parameters? (place (v ++ [c])) s)
    (v : List Char) (hw : ∀ c ∈ w, isTokenChar c = true) :
    parameters? (place v) (w ++ s) = parameters? (place (v ++ w)) s := by
  induction w generalizing v with
  | nil => rw [List.append_nil, List.nil_append]
  | cons c w ih =>
    obtain ⟨hc, hw⟩ := List.forall_mem_cons.1 hw
    rw [List.cons_append, hstep v c _ hc, ih _ hw, List.append_assoc, List.singleton_append]

/-- An equals sign ends a name, and is no character of it. -/
theorem parameters?_name_cons (n : List Char) (c : Char) (s : List Char)
    (hc : isTokenChar c = true) :
    parameters? (.name n) (c :: s) = parameters? (.name (n ++ [c])) s := by
  have hne : c ≠ '=' := fun h => by simp [h, not_isTokenChar] at hc
  rw [parameters?, if_neg hne, if_pos hc]

/-- So does a semicolon with a value without quotes. -/
theorem parameters?_token_cons (v : List Char) (c : Char) (s : List Char)
    (hc : isTokenChar c = true) :
    parameters? (.token n v) (c :: s) = parameters? (.token n (v ++ [c])) s := by
  have hne : c ≠ ';' := fun h => by simp [h, not_isTokenChar] at hc
  rw [parameters?, if_neg hne, if_pos hc]

/-- A name is read up to its equals sign. -/
theorem parameters?_name (hn : IsToken n) :
    parameters? .before (n ++ '=' :: s) = parameters? (.value n) s := by
  obtain ⟨hne, hall⟩ := hn
  cases n with
  | nil => exact absurd rfl hne
  | cons c n =>
    obtain ⟨hc, hall⟩ := List.forall_mem_cons.1 hall
    have hblank : c ≠ ' ' := fun h => by simp [h, not_isTokenChar] at hc
    rw [List.cons_append, parameters?, if_neg hblank, if_pos hc,
      parameters?_append .name parameters?_name_cons [c] hall, parameters?, if_pos rfl]
    rfl

/-- A value without quotes is read as far as it goes. -/
theorem parameters?_value (hv : IsToken v) :
    parameters? (.value n) (v ++ s) = parameters? (.token n v) s := by
  obtain ⟨hne, hall⟩ := hv
  cases v with
  | nil => exact absurd rfl hne
  | cons c v =>
    obtain ⟨hc, hall⟩ := List.forall_mem_cons.1 hall
    have hquote : c ≠ '"' := fun h => by simp [h, not_isTokenChar] at hc
    rw [List.cons_append, parameters?, if_neg hquote, if_pos hc,
      parameters?_append (.token n) parameters?_token_cons [c] hall]
    rfl

/-- So is what stands between quotes. -/
theorem parameters?_opened (hv : IsQuoted v) :
    parameters? (.opened n) (v ++ s) = parameters? (.quoted n v) s := by
  induction hv generalizing s with
  | single hc hslash => rw [List.singleton_append, parameters?, if_neg hslash, if_pos hc]
  | singlePair hc =>
    rw [List.cons_append, parameters?, if_pos rfl, List.singleton_append, parameters?, if_pos hc]
    rfl
  | char _ hc hquote hslash ih =>
    rw [List.append_assoc, ih, List.singleton_append, parameters?, if_neg hquote, if_neg hslash,
      if_pos hc]
  | pair _ hc ih =>
    rw [List.append_assoc, ih, List.cons_append, parameters?, if_neg (by decide), if_pos rfl,
      List.singleton_append, parameters?, if_pos hc, List.append_assoc]
    rfl

theorem parameters?_closed (blanks : Nat) :
    parameters? .closed (List.replicate blanks ' ' ++ s) = parameters? .closed s := by
  induction blanks with
  | zero => rfl
  | succ blanks ih =>
    rw [List.replicate_succ, List.cons_append, parameters?, if_neg (by decide), if_pos rfl, ih]

/-- The texts of parameters are those that spell them. -/
theorem parameters?_eq_some_iff : parameters? .before s = some l ↔ SpellsParameters s l := by
  refine ⟨admits_of_parameters?, fun h => ?_⟩
  induction h with
  | nil => rfl
  | blank _ ih => rw [parameters?, if_pos rfl, ih]
  | bare hn => rw [parameters?_name hn, parameters?]
  | @lastToken n v hn hv =>
    rw [parameters?_name hn, ← List.append_nil v, parameters?_value hv, parameters?,
      List.append_nil]
  | token hn hv _ ih =>
    rw [parameters?_name hn, parameters?_value hv, parameters?, if_pos rfl, ih, Option.map_some]
  | lastQuoted blanks hn hv =>
    have hend := parameters?_closed (s := []) blanks
    rw [List.append_nil] at hend
    rw [parameters?_name hn, parameters?, if_pos rfl, parameters?_opened hv, parameters?, if_pos rfl,
      hend, parameters?, Option.map_some]
  | quoted blanks hn hv _ ih =>
    rw [parameters?_name hn, parameters?, if_pos rfl, parameters?_opened hv, parameters?, if_pos rfl,
      parameters?_closed, parameters?, if_pos rfl, ih, Option.map_some]

end ParameterPlace

/-! ### Media types -/

namespace MediaType

/-- The text is a media type, with its type, its subtype and its parameters. -/
inductive Written : List Char → List Char → List Char → List Parameter → Prop
  /-- Without parameters. -/
  | plain {kind subtype : List Char} :
    IsToken kind → IsToken subtype → Written (kind ++ '/' :: subtype) kind subtype []
  /-- With parameters after a semicolon. -/
  | parameters {kind subtype s : List Char} {l : List Parameter} :
    IsToken kind → IsToken subtype → SpellsParameters s l →
    Written (kind ++ '/' :: (subtype ++ ';' :: s)) kind subtype l

variable {t : MediaType} {kind subtype : List Char}

theorem ne_semicolon (h : IsToken subtype) (c : Char) (hc : c ∈ subtype) :
    decide (c ≠ ';') = true := by
  refine decide_eq_true fun heq => ?_
  have htoken := h.2 c hc
  simp [heq, not_isTokenChar] at htoken

/-- A subtype has no semicolon, so it ends at the first one. -/
theorem takeWhile_subtype (h : IsToken subtype) (s : List Char) :
    (subtype ++ ';' :: s).takeWhile (· ≠ ';') = subtype ∧
      (subtype ++ ';' :: s).dropWhile (· ≠ ';') = ';' :: s := by
  rw [List.takeWhile_append_of_pos (ne_semicolon h), List.dropWhile_append_of_pos (ne_semicolon h)]
  simp

/-- The texts of media types, and what they are read as. -/
theorem parse?_eq_some_iff : parse? s = some t ↔
    ∃ kind subtype l, Written s kind subtype l ∧ t = ofParts kind subtype l := by
  simp only [parse?, Option.bind_eq_bind, Option.bind_eq_some_iff, Prod.exists, List.all_eq_true]
  constructor
  · rintro ⟨kind, rest, hcut, l, hl, h⟩
    obtain ⟨rfl, -⟩ := Text.cut?_eq_some.1 hcut
    split at h
    · next htokens =>
      obtain ⟨hkind, hkinds, hsubtype, hsubtypes⟩ := htokens
      have hrest := List.takeWhile_append_dropWhile (p := (· ≠ ';')) (l := rest)
      refine ⟨kind, rest.takeWhile (· ≠ ';'), l, ?_, (Option.some.inj h).symm⟩
      generalize rest.takeWhile (· ≠ ';') = subtype at hsubtype hsubtypes hrest
      -- There are parameters if something is left after the subtype.
      cases hdrop : rest.dropWhile (· ≠ ';') with
      | nil =>
        rw [hdrop] at hl hrest
        cases hl
        rw [← hrest, List.append_nil]
        exact .plain ⟨hkind, hkinds⟩ ⟨hsubtype, hsubtypes⟩
      | cons c s =>
        obtain rfl : c = ';' := by simpa using Text.not_of_dropWhile_eq_cons hdrop
        rw [hdrop] at hl hrest
        rw [← hrest]
        exact .parameters ⟨hkind, hkinds⟩ ⟨hsubtype, hsubtypes⟩
          (ParameterPlace.parameters?_eq_some_iff.1 hl)
    · cases h
  · rintro ⟨kind, subtype, l, hs, rfl⟩
    have hslash (kind : List Char) (h : IsToken kind) : '/' ∉ kind :=
      fun hmem => absurd (h.2 '/' hmem) (by decide)
    cases hs with
    | plain hkind hsubtype =>
      have htake : subtype.takeWhile (· ≠ ';') = subtype :=
        List.takeWhile_eq_self_iff.2 (ne_semicolon hsubtype)
      have hdrop : subtype.dropWhile (· ≠ ';') = [] :=
        List.dropWhile_eq_nil_iff.2 (ne_semicolon hsubtype)
      refine ⟨kind, subtype, Text.cut?_eq_some.2 ⟨rfl, hslash kind hkind⟩, [], ?_, ?_⟩
      · rw [hdrop]
        rfl
      · rw [htake, if_pos ⟨hkind.1, hkind.2, hsubtype.1, hsubtype.2⟩]
    | @parameters _ _ s _ hkind hsubtype hs =>
      obtain ⟨htake, hdrop⟩ := takeWhile_subtype hsubtype s
      refine ⟨kind, _, Text.cut?_eq_some.2 ⟨rfl, hslash kind hkind⟩, l, ?_, ?_⟩
      · rw [hdrop]
        exact ParameterPlace.parameters?_eq_some_iff.2 hs
      · rw [htake, if_pos ⟨hkind.1, hkind.2, hsubtype.1, hsubtype.2⟩]

end MediaType

end LoginGate.Http
