import LoginGate.Registry.Query

/-!
# Nothing is injected into queries

Queries are read from left to right. A backslash makes the character after it
literal, blanks that are not literal separate tokens, and the first colon of a
token that is not literal separates a field from its value (`readQuery`). The
reader knows nothing of how terms are escaped.

Of the query for a user it makes five tokens, whatever the parts of the user
are: a clause for each part, with a word between them (`readQuery_sessionQuery`). No
blank and no character with a meaning is left in a value without its backslash,
and the value stands for the part, so different users have different queries.
-/

namespace LoginGate

/-! ### Reading queries -/

/-- A character of a query. -/
structure QueryMark where
  /-- The character. -/
  char : Char
  /-- A backslash stands before the character, so that it has no meaning. -/
  literal : Bool
deriving DecidableEq, Repr

namespace QueryMark

/-- Whether the character separates tokens. -/
def separates (m : QueryMark) : Bool := !m.literal && Text.isBlank m.char

/-- Whether the character is a colon that may separate a field from its value. -/
def isColon (m : QueryMark) : Bool := !m.literal && m.char == ':'

/-- The characters of a text, none of them literal. -/
def bare (s : String) : List QueryMark := s.toList.map (⟨·, false⟩)

/-- The text of characters, without the backslashes before literal ones. -/
def text (l : List QueryMark) : String := String.ofList (l.map QueryMark.char)

end QueryMark

/-- The characters of a query, without the backslashes that make others literal. -/
def queryMarks : List Char → List QueryMark
  | [] => []
  | '\\' :: c :: rest => ⟨c, true⟩ :: queryMarks rest
  | c :: rest => ⟨c, false⟩ :: queryMarks rest

/-- A token of a query. -/
inductive QueryToken where
  /-- A word without a field. -/
  | word (text : List QueryMark)
  /-- A value that a field has to have. -/
  | clause (field value : List QueryMark)
deriving DecidableEq, Repr

/-- The token that some characters are. -/
def QueryToken.ofMarks (l : List QueryMark) : QueryToken :=
  match l.dropWhile fun m => !m.isColon with
  | [] => .word l
  | _ :: value => .clause (l.takeWhile fun m => !m.isColon) value

/-- The tokens of a query. -/
def readQuery (query : String) : List QueryToken :=
  (((queryMarks query.toList).splitOnP QueryMark.separates).filter fun l => !l.isEmpty).map
    QueryToken.ofMarks

/-! ### Escaped terms -/

/-- The characters of an escaped term: those that need a backslash have one. -/
def termMarks (s : String) : List QueryMark := s.toList.map fun c => ⟨c, isQueryCharacter c⟩

theorem queryMarks_cons {c : Char} (h : c ≠ '\\') (rest : List Char) :
    queryMarks (c :: rest) = ⟨c, false⟩ :: queryMarks rest := by
  rw [queryMarks]
  exact fun _ _ hc _ => h hc

/-- A text without backslashes is read as it is. -/
theorem queryMarks_bare_append {s : String} (h : '\\' ∉ s.toList) (rest : List Char) :
    queryMarks (s.toList ++ rest) = QueryMark.bare s ++ queryMarks rest := by
  rw [QueryMark.bare]
  generalize s.toList = l at h
  induction l with
  | nil => rfl
  | cons c l ih =>
    rw [List.mem_cons, not_or] at h
    rw [List.cons_append, queryMarks_cons (Ne.symm h.1), ih h.2]
    rfl

/-- An escaped term is read as its text, and what follows it is not touched. -/
theorem queryMarks_term_append (s : String) (rest : List Char) :
    queryMarks ((queryTerm s).toList ++ rest) = termMarks s ++ queryMarks rest := by
  rw [queryTerm, String.toList_ofList, termMarks]
  induction s.toList with
  | nil => rfl
  | cons c l ih =>
    rw [escapeTerm, List.flatMap_cons, ← escapeTerm, List.append_assoc]
    by_cases hc : isQueryCharacter c
    · rw [if_pos hc, List.map_cons, hc]
      exact congrArg (List.cons _) ih
    · -- A character without a backslash is none itself.
      have hne : c ≠ '\\' := by
        rintro rfl
        exact hc (by decide)
      rw [if_neg hc, List.singleton_append, queryMarks_cons hne, ih, List.map_cons]
      simp only [hc, List.cons_append]

theorem text_termMarks (s : String) : QueryMark.text (termMarks s) = s := by
  rw [QueryMark.text, termMarks, List.map_map]
  exact (congrArg String.ofList (List.map_id _)).trans String.ofList_toList

theorem literal_of_mem_termMarks {s : String} {m : QueryMark} (h : m ∈ termMarks s)
    (hm : isQueryCharacter m.char) : m.literal = true := by
  obtain ⟨c, -, rfl⟩ := List.mem_map.1 h
  exact hm

/-- No blank of a term separates tokens. -/
theorem separates_of_mem_termMarks {s : String} {m : QueryMark} (h : m ∈ termMarks s) :
    m.separates = false := by
  cases hb : Text.isBlank m.char with
  | false => simp [QueryMark.separates, hb]
  | true =>
    have hl : m.literal = true := literal_of_mem_termMarks h (by simp [isQueryCharacter, hb])
    simp [QueryMark.separates, hl]

/-! ### The query for a user -/

/-- A clause with an escaped term, as it is read. -/
def clauseMarks (field value : String) : List QueryMark :=
  QueryMark.bare field ++ ⟨':', false⟩ :: termMarks value

/-- A field is followed by its value at the first colon. -/
theorem ofMarks_clause {field : String} (h : ∀ m ∈ QueryMark.bare field, m.isColon = false)
    (value : String) :
    QueryToken.ofMarks (clauseMarks field value) =
      .clause (QueryMark.bare field) (termMarks value) := by
  have hf : ∀ m ∈ QueryMark.bare field, (!m.isColon) = true := fun m hm => by simp [h m hm]
  have hdrop : (clauseMarks field value).dropWhile (fun m => !m.isColon) =
      ⟨':', false⟩ :: termMarks value := by
    rw [clauseMarks, List.dropWhile_append_of_pos hf]
    rfl
  have htake : (clauseMarks field value).takeWhile (fun m => !m.isColon) =
      QueryMark.bare field := by
    rw [clauseMarks, List.takeWhile_append_of_pos hf]
    exact List.append_nil _
  rw [QueryToken.ofMarks, hdrop, htake]

theorem separates_of_mem_clauseMarks {field value : String} {m : QueryMark}
    (h : ∀ m ∈ QueryMark.bare field, m.separates = false) (hm : m ∈ clauseMarks field value) :
    m.separates = false := by
  rcases List.mem_append.1 hm with hm | hm
  · exact h m hm
  · rcases List.mem_cons.1 hm with rfl | hm
    · rfl
    · exact separates_of_mem_termMarks hm

theorem queryMarks_query (user : QualifiedUser) :
    queryMarks (sessionQuery user).toList =
      clauseMarks "tenantDomain" user.tenant ++ ⟨' ', false⟩ ::
        (QueryMark.bare "AND" ++ ⟨' ', false⟩ ::
          (clauseMarks "username" user.username ++ ⟨' ', false⟩ ::
            (QueryMark.bare "AND" ++ ⟨' ', false⟩ ::
              clauseMarks "userstoreDomain" user.userStore))) := by
  have hend : queryMarks (queryTerm user.userStore).toList = termMarks user.userStore := by
    have h := queryMarks_term_append user.userStore []
    rwa [List.append_nil, queryMarks, List.append_nil] at h
  have hquery : sessionQuery user =
      "tenantDomain:" ++ queryTerm user.tenant ++ " AND username:" ++ queryTerm user.username ++
        " AND userstoreDomain:" ++ queryTerm user.userStore := rfl
  rw [hquery]
  simp only [String.toList_append, List.append_assoc]
  have htenant : '\\' ∉ "tenantDomain:".toList := by decide
  have husername : '\\' ∉ " AND username:".toList := by decide
  have huserStore : '\\' ∉ " AND userstoreDomain:".toList := by decide
  rw [queryMarks_bare_append htenant, queryMarks_term_append, queryMarks_bare_append husername,
    queryMarks_term_append, queryMarks_bare_append huserStore, hend]
  simp [clauseMarks, QueryMark.bare]

/-- The tokens of the query for a user. -/
theorem tokens_sessionQuery (user : QualifiedUser) :
    readQuery (sessionQuery user) =
      [.clause (QueryMark.bare "tenantDomain") (termMarks user.tenant),
        .word (QueryMark.bare "AND"),
        .clause (QueryMark.bare "username") (termMarks user.username),
        .word (QueryMark.bare "AND"),
        .clause (QueryMark.bare "userstoreDomain") (termMarks user.userStore)] := by
  have hpieces : (queryMarks (sessionQuery user).toList).splitOnP QueryMark.separates =
      [clauseMarks "tenantDomain" user.tenant, QueryMark.bare "AND",
        clauseMarks "username" user.username, QueryMark.bare "AND",
        clauseMarks "userstoreDomain" user.userStore] := by
    -- Only the blanks around the words separate tokens.
    rw [queryMarks_query,
      List.splitOnP_append_cons_of_forall_mem
        (fun m hm => separates_of_mem_clauseMarks (by decide) hm) _ (by decide),
      List.splitOnP_append_cons_of_forall_mem (by decide) _ (by decide),
      List.splitOnP_append_cons_of_forall_mem
        (fun m hm => separates_of_mem_clauseMarks (by decide) hm) _ (by decide),
      List.splitOnP_append_cons_of_forall_mem (by decide) _ (by decide),
      List.splitOnP_eq_singleton fun m hm => separates_of_mem_clauseMarks (by decide) hm]
  have hne (field value : String) : (clauseMarks field value).isEmpty = false := by
    simp [clauseMarks]
  rw [readQuery, hpieces]
  simp only [List.filter_cons, List.filter_nil, hne, show (QueryMark.bare "AND").isEmpty = false
    from rfl, Bool.not_false, if_true, List.map_cons, List.map_nil]
  rw [ofMarks_clause (by decide), ofMarks_clause (by decide), ofMarks_clause (by decide)]
  rfl

/-- The query for a user is read as one clause for each part of the user, with a
    word between them. The value of a clause is the part, and every blank and
    every character with a meaning is literal in it. So a query is the query for
    one user only. -/
theorem readQuery_sessionQuery (user : QualifiedUser) :
    (∃ tenant username userStore : List QueryMark,
      readQuery (sessionQuery user) =
        [.clause (QueryMark.bare "tenantDomain") tenant, .word (QueryMark.bare "AND"),
          .clause (QueryMark.bare "username") username, .word (QueryMark.bare "AND"),
          .clause (QueryMark.bare "userstoreDomain") userStore] ∧
      QueryMark.text tenant = user.tenant ∧ QueryMark.text username = user.username ∧
      QueryMark.text userStore = user.userStore ∧
      ∀ m ∈ tenant ++ username ++ userStore, Text.isBlank m.char = true ∨
        m.char ∈ "+-&|!()\x7b\x7d[]^\"~*?:\\/".toList → m.literal = true) ∧
    ∀ other, sessionQuery other = sessionQuery user → other = user := by
  refine ⟨⟨termMarks user.tenant, termMarks user.username, termMarks user.userStore,
    tokens_sessionQuery user, text_termMarks _, text_termMarks _, text_termMarks _,
    fun m hm hc => ?_⟩,
    fun other h => ?_⟩
  · have hq : isQueryCharacter m.char = true := by
      rcases hc with hb | hc
      · simp [isQueryCharacter, hb]
      · have hmem : m.char ∈ queryCharacters := hc
        simp [isQueryCharacter, hmem]
    rcases List.mem_append.1 hm with hm | hm
    · rcases List.mem_append.1 hm with hm | hm
      · exact literal_of_mem_termMarks hm hq
      · exact literal_of_mem_termMarks hm hq
    · exact literal_of_mem_termMarks hm hq
  · -- Both queries have the same tokens, and these hold the parts.
    have htokens := tokens_sessionQuery other
    rw [h, tokens_sessionQuery user] at htokens
    simp only [List.cons.injEq, QueryToken.clause.injEq, true_and, and_true] at htokens
    obtain ⟨ht, hu, hs⟩ := htokens
    have hpart {a b : String} (h : termMarks a = termMarks b) : b = a := by
      rw [← text_termMarks b, ← h, text_termMarks]
    obtain ⟨userStore, username, tenant⟩ := other
    rw [QualifiedUser.mk.injEq]
    exact ⟨hpart hs, hpart hu, hpart ht⟩

end LoginGate
