import LoginGate.Proofs.Principal.Splitting
import LoginGate.Proofs.Registry.Query

/-!
# Words that are operators

A backslash makes a character literal, but a word may have a meaning as a whole. As
the query language is lexed (`lex`), characters that are literal or have no meaning
run together, and a run is a term unless it is one of the words `AND`, `OR` and
`NOT`, none of whose letters is literal. These are operators wherever they stand.

* `lex_sessionQuery`: the query for a principal has one lexeme for each part of the
  user, and it is a term exactly if the part is none of these words;
* `lex_of_principalAnd`: the principal `AND` is asked for by an operator.

Escaping goes by characters, and letters have no meaning by themselves. So a part
that is such a word stands in the query as it is.
-/

namespace LoginGate

/-! ### Lexemes -/

/-- The operators that are words. -/
inductive QueryOperator where
  /-- Both sides. -/
  | and
  /-- Either side. -/
  | or
  /-- Not what follows. -/
  | not
deriving DecidableEq, Repr

namespace QueryOperator

/-- All operators. -/
def all : List QueryOperator := [and, or, not]

/-- The word of an operator. -/
def word : QueryOperator → String
  | and => "AND"
  | or => "OR"
  | not => "NOT"

theorem mem_all (o : QueryOperator) : o ∈ all := by
  cases o <;> decide

end QueryOperator

/-- Whether a character may be in a term: it is literal, or it is neither a blank nor
    one of those with a meaning. -/
def QueryMark.isSolid (m : QueryMark) : Bool :=
  m.literal || !(Text.isBlank m.char || "+-&|!()\x7b\x7d[]^\"~*?:\\/".toList.contains m.char)

/-- A lexeme of a query. -/
inductive Lexeme where
  /-- A term, which is looked for. -/
  | term (marks : List QueryMark)
  /-- An operator. -/
  | operator (o : QueryOperator)
  /-- A character with a meaning. -/
  | sign (c : Char)
deriving DecidableEq, Repr

namespace Lexeme

/-- Whether the lexeme is a term. -/
def isTerm : Lexeme → Bool
  | term _ => true
  | _ => false

/-- The lexeme of a run: an operator if the run is its word without a backslash, and a
    term otherwise. -/
def ofRun (run : List QueryMark) : Lexeme :=
  match QueryOperator.all.find? fun o => QueryMark.bare o.word == run with
  | some o => operator o
  | none => term run

/-- The lexeme of a run if there is one. -/
def ofRun? (run : List QueryMark) : List Lexeme := if run.isEmpty then [] else [ofRun run]

/-- The lexeme of a character that is in no term: none for a blank. -/
def ofSeparator (m : QueryMark) : List Lexeme := if Text.isBlank m.char then [] else [sign m.char]

end Lexeme

/-- The lexemes of a query, after a run of characters of a term. -/
def lexAfter (run : List QueryMark) : List QueryMark → List Lexeme
  | [] => Lexeme.ofRun? run
  | m :: rest =>
    if m.isSolid then lexAfter (run ++ [m]) rest
    else Lexeme.ofRun? run ++ Lexeme.ofSeparator m ++ lexAfter [] rest

/-- The lexemes of a query. -/
def lex (query : String) : List Lexeme := lexAfter [] (queryMarks query.toList)

/-! ### Runs -/

section Runs

variable {run l rest : List QueryMark} {m : QueryMark}

theorem lexAfter_append (h : ∀ m ∈ l, m.isSolid = true) (run rest : List QueryMark) :
    lexAfter run (l ++ rest) = lexAfter (run ++ l) rest := by
  induction l generalizing run with
  | nil => rw [List.nil_append, List.append_nil]
  | cons m l ih =>
    obtain ⟨hm, hl⟩ := List.forall_mem_cons.1 h
    rw [List.cons_append, lexAfter, if_pos hm, ih hl, List.append_assoc, List.singleton_append]

/-- A run ends at the first character that is in no term. -/
theorem lexAfter_run (h : ∀ m ∈ l, m.isSolid = true) (hl : l ≠ []) (hm : m.isSolid = false) :
    lexAfter [] (l ++ m :: rest) =
      Lexeme.ofRun l :: (Lexeme.ofSeparator m ++ lexAfter [] rest) := by
  rw [lexAfter_append h, List.nil_append, lexAfter, hm, Lexeme.ofRun?,
    List.isEmpty_eq_false_iff.2 hl]
  rfl

/-- A run ends at the end of the query. -/
theorem lexAfter_last (h : ∀ m ∈ l, m.isSolid = true) (hl : l ≠ []) :
    lexAfter [] l = [Lexeme.ofRun l] := by
  have hlex := lexAfter_append h [] []
  rw [List.append_nil] at hlex
  rw [hlex, List.nil_append, lexAfter, Lexeme.ofRun?, List.isEmpty_eq_false_iff.2 hl]
  rfl

/-- An escaped term is one run. -/
theorem isSolid_of_mem_termMarks {s : String} (h : m ∈ termMarks s) : m.isSolid = true := by
  obtain ⟨c, -, rfl⟩ := List.mem_map.1 h
  rw [QueryMark.isSolid]
  by_cases hc : isQueryCharacter c
  · rw [hc, Bool.true_or]
  · have hplain : (Text.isBlank c || queryCharacters.contains c) = false := by
      simpa [isQueryCharacter] using hc
    rw [show "+-&|!()\x7b\x7d[]^\"~*?:\\/".toList = queryCharacters from rfl, hplain,
      Bool.not_false, Bool.or_true]

theorem termMarks_ne_nil {s : String} (h : s ≠ "") : termMarks s ≠ [] := by
  simpa [termMarks] using h

/-- No letter of the words is escaped. -/
theorem termMarks_word (o : QueryOperator) : termMarks o.word = QueryMark.bare o.word := by
  cases o <;> decide

theorem text_bare_word (o : QueryOperator) : QueryMark.text (QueryMark.bare o.word) = o.word := by
  cases o <;> decide

end Runs

/-! ### The query for a principal -/

/-- What a part of a user stands in a query as. -/
inductive StandsFor (part : String) : Lexeme → Prop
  /-- It is a term of its characters, and no word of an operator. -/
  | term {marks : List QueryMark} (h : QueryMark.text marks = part)
    (hword : ∀ o, part ≠ QueryOperator.word o) : StandsFor part (.term marks)
  /-- It is the word of an operator. -/
  | operator {o : QueryOperator} (h : part = o.word) : StandsFor part (.operator o)

theorem StandsFor.isTerm_iff {part : String} {lexeme : Lexeme} (h : StandsFor part lexeme) :
    lexeme.isTerm = true ↔ ∀ o, part ≠ QueryOperator.word o := by
  rcases h with ⟨-, hword⟩ | h
  · exact iff_of_true rfl hword
  · exact iff_of_false Bool.false_ne_true fun hword => hword _ h

/-- An escaped part is a term, unless it is the word of an operator. -/
theorem standsFor_ofRun (part : String) : StandsFor part (Lexeme.ofRun (termMarks part)) := by
  rw [Lexeme.ofRun]
  split
  case h_2 hfind =>
    refine .term (text_termMarks part) fun o ho => ?_
    have hnone := List.find?_eq_none.1 hfind o o.mem_all
    rw [ho, termMarks_word] at hnone
    exact hnone (beq_self_eq_true _)
  case h_1 o hfind =>
    have hword : QueryMark.bare o.word = termMarks part := by
      simpa using List.find?_some hfind
    refine .operator ?_
    rw [← text_termMarks part, ← hword, text_bare_word]

namespace Principal

theorem ne_nil_of_userAndTenant {s user : List Char} {tenant : Option (List Char)}
    (h : userAndTenant s = some (user, tenant)) : user ≠ [] ∧ ∀ t ∈ tenant, t ≠ [] := by
  induction s generalizing user with
  | nil => cases h
  | cons c rest ih =>
    rw [userAndTenant] at h
    split at h
    · cases h
    split at h
    · next after hafter =>
      obtain ⟨rfl, rfl⟩ := Prod.mk.inj (Option.some.inj h)
      refine ⟨List.cons_ne_nil c [], ?_⟩
      rintro t rfl
      exact (tenant_of_tenantAfter hafter).2.1
    · obtain ⟨⟨user', tenant'⟩, hrest, heq⟩ := Option.map_eq_some_iff.1 h
      obtain ⟨rfl, rfl⟩ := Prod.mk.inj heq
      exact ⟨List.cons_ne_nil c _, (ih hrest).2⟩

theorem qualify_ne_empty {store tenant : Option (List Char)} {user : List Char}
    (hstore : ∀ s ∈ store, s ≠ []) (huser : user ≠ []) (htenant : ∀ t ∈ tenant, t ≠ []) :
    ∀ part ∈ [(qualify store user tenant).tenant, (qualify store user tenant).username,
      (qualify store user tenant).userStore], part ≠ "" := by
  have hpart {part : Option (List Char)} {other : String} (hpart : ∀ s ∈ part, s ≠ [])
      (hother : other ≠ "") : (part.map String.ofList).getD other ≠ "" := by
    rcases part with _ | s
    · exact hother
    · simpa using hpart s rfl
  simp only [List.forall_mem_cons, qualify]
  exact ⟨hpart htenant (by decide), by simpa using huser, hpart hstore (by decide), nofun⟩

/-- No part of the user that a principal names is empty. -/
theorem qualified_ne_empty (p : Principal) :
    ∀ part ∈ [p.qualified.tenant, p.qualified.username, p.qualified.userStore], part ≠ "" := by
  have hnone : ∀ s ∈ (none : Option (List Char)), s ≠ [] := nofun
  have htext : p.text.toList ≠ [] := by
    intro h
    have hshown := p.not_blank
    rw [Text.isBlankText, h] at hshown
    cases hshown
  rw [qualified]
  split
  · next store user tenant h =>
    unfold storeReading at h
    split at h
    · next c store' slash rest _ _ =>
      obtain ⟨⟨user', tenant'⟩, hrest, heq⟩ := Option.map_eq_some_iff.1 h
      obtain ⟨rfl, rfl, rfl⟩ : c :: store' = store ∧ user' = user ∧ tenant' = tenant := by
        simpa using heq
      obtain ⟨huser, htenant⟩ := ne_nil_of_userAndTenant hrest
      refine qualify_ne_empty ?_ huser htenant
      rintro s ⟨⟩
      exact List.cons_ne_nil c store'
    · cases h
  · split
    · next user tenant h =>
      obtain ⟨huser, htenant⟩ := ne_nil_of_userAndTenant h
      exact qualify_ne_empty hnone huser htenant
    · exact qualify_ne_empty hnone htext hnone

end Principal

/-- A field and its value are three lexemes. -/
theorem lexAfter_clause {field : String} (hfield : QueryMark.bare field ≠ [])
    (hsolid : ∀ m ∈ QueryMark.bare field, m.isSolid = true) (value : String)
    (rest : List QueryMark) :
    lexAfter [] (clauseMarks field value ++ rest) =
      Lexeme.ofRun (QueryMark.bare field) :: .sign ':' ::
        lexAfter [] (termMarks value ++ rest) := by
  rw [clauseMarks, List.append_assoc, List.cons_append, lexAfter_run hsolid hfield rfl]
  rfl

/-- A value and the word after it are two lexemes. -/
theorem lexAfter_value {value : String} (hvalue : value ≠ "") (rest : List QueryMark) :
    lexAfter [] (termMarks value ++
        ⟨' ', false⟩ :: (QueryMark.bare "AND" ++ ⟨' ', false⟩ :: rest)) =
      Lexeme.ofRun (termMarks value) :: .operator .and :: lexAfter [] rest := by
  rw [lexAfter_run (fun m => isSolid_of_mem_termMarks) (termMarks_ne_nil hvalue) rfl,
    show Lexeme.ofSeparator ⟨' ', false⟩ = [] from rfl, List.nil_append,
    lexAfter_run (by decide) (by decide) rfl]
  rfl

/-- The query for a principal has one lexeme for each part of the user that it names, and
    the lexeme is a term unless the part is the word of an operator. Then it is that
    operator. -/
theorem lex_sessionQuery (p : Principal) : ∃ tenant username userStore : Lexeme,
    lex (sessionQuery p.qualified) =
      [.term (QueryMark.bare "tenantDomain"), .sign ':', tenant, .operator .and,
        .term (QueryMark.bare "username"), .sign ':', username, .operator .and,
        .term (QueryMark.bare "userstoreDomain"), .sign ':', userStore] ∧
    StandsFor p.qualified.tenant tenant ∧ StandsFor p.qualified.username username ∧
    StandsFor p.qualified.userStore userStore ∧
    ((∀ lexeme ∈ [tenant, username, userStore], lexeme.isTerm = true) ↔
      ∀ part ∈ [p.qualified.tenant, p.qualified.username, p.qualified.userStore],
        ∀ o, part ≠ QueryOperator.word o) := by
  obtain ⟨htenant, husername, huserStore, -⟩ := by
    simpa only [List.forall_mem_cons] using p.qualified_ne_empty
  have hlast : lexAfter [] (clauseMarks "userstoreDomain" p.qualified.userStore) =
      [.term (QueryMark.bare "userstoreDomain"), .sign ':',
        Lexeme.ofRun (termMarks p.qualified.userStore)] := by
    have hfield : QueryMark.bare "userstoreDomain" ≠ [] := by decide
    have hclause := lexAfter_clause hfield (by decide) p.qualified.userStore []
    rw [List.append_nil, List.append_nil, lexAfter_last (fun m => isSolid_of_mem_termMarks)
      (termMarks_ne_nil huserStore)] at hclause
    exact hclause
  refine ⟨_, _, _, ?_, standsFor_ofRun _, standsFor_ofRun _, standsFor_ofRun _, ?_⟩
  · rw [lex, queryMarks_query, lexAfter_clause (by decide) (by decide), lexAfter_value htenant,
      lexAfter_clause (by decide) (by decide), lexAfter_value husername, hlast]
    rfl
  · simp only [List.forall_mem_cons, (standsFor_ofRun _).isTerm_iff, List.not_mem_nil,
      false_imp_iff, implies_true]

/-- The username of the principal `AND` is an operator in the query, and no term. -/
theorem lex_of_principalAnd : ∃ p : Principal, p.text = "AND" ∧
    lex (sessionQuery p.qualified) =
      [.term (QueryMark.bare "tenantDomain"), .sign ':', .term (termMarks "carbon.super"),
        .operator .and, .term (QueryMark.bare "username"), .sign ':', .operator .and,
        .operator .and, .term (QueryMark.bare "userstoreDomain"), .sign ':',
        .term (termMarks "PRIMARY")] :=
  ⟨⟨"AND", by decide⟩, rfl, by decide +kernel⟩

end LoginGate
