import LoginGate.Proofs.CommandLine.Arguments
import LoginGate.Proofs.Url.Password
import LoginGate.Text.Blank

/-!
# Command lines that differ in secrets

Two command lines are *alike* if they are the same but for secrets: a token and a
password that are not blank, and the password in the address of a database
(`AlikeValues`). If both are read to their ends, the same settings are given, with
values that are alike (`alike_read`).

The two are read side by side. Nothing is said of command lines that are refused,
as a value that begins with a dash may be where another one does not: what relates
two steps does so only if both succeed (`BothOk`).
-/

namespace LoginGate.CommandLine

/-! ### Both succeed -/

section BothOk

variable {ε α α' β β' : Type}

/-- What two computations lead to is related, if both lead to anything. -/
def BothOk (R : α → α' → Prop) (x : Except ε α) (y : Except ε α') : Prop :=
  ∀ a a', x = .ok a → y = .ok a' → R a a'

variable {R : α → α' → Prop} {S : β → β' → Prop}

theorem BothOk.ok {a : α} {a' : α'} (h : R a a') :
    BothOk R (.ok a : Except ε α) (.ok a' : Except ε α') := by
  rintro _ _ ⟨⟩ ⟨⟩
  exact h

theorem BothOk.refl (x : Except ε α) : BothOk Eq x x := by
  intro a a' ha ha'
  exact Except.ok.inj (ha.symm.trans ha')

theorem BothOk.of_error {e : ε} {y : Except ε α'} : BothOk R (.error e) y := nofun

theorem BothOk.of_error' {x : Except ε α} {e : ε} : BothOk R x (.error e) :=
  fun _ _ _ h => nomatch h

theorem BothOk.bind {x : Except ε α} {y : Except ε α'} {f : α → Except ε β}
    {g : α' → Except ε β'} (h : BothOk R x y) (hfg : ∀ a a', R a a' → BothOk S (f a) (g a')) :
    BothOk S (x >>= f) (y >>= g) := by
  cases x with
  | error e => exact .of_error
  | ok a =>
    cases y with
    | error e => exact .of_error'
    | ok a' => exact hfg a a' (h a a' rfl rfl)

end BothOk

/-! ### Values and settings -/

/-- Two values of a setting are the same but for a secret. -/
inductive AlikeValues : Setting → String → String → Prop
  /-- The values are the same. -/
  | same (s : Setting) (value : String) : AlikeValues s value value
  /-- They are tokens. -/
  | token {value value' : String} (h : Text.isBlankText value = false)
    (h' : Text.isBlankText value' = false) : AlikeValues .adminToken value value'
  /-- They are passwords. -/
  | password {value value' : String} (h : Text.isBlankText value = false)
    (h' : Text.isBlankText value' = false) : AlikeValues .password value value'
  /-- They are addresses of a database that differ in the password. -/
  | dsn {d d' : Url.Dsn} (huser : d.user = d'.user) (hrest : d.rest = d'.rest) :
    AlikeValues .dsn d.text d'.text

/-- Whether values of a setting have secrets. -/
def holdsSecret (s : Setting) : Bool := s == .adminToken || s == .password || s == .dsn

theorem AlikeValues.eq {s : Setting} {value value' : String} (h : AlikeValues s value value')
    (hs : holdsSecret s = false) : value = value' := by
  cases h with
  | same => rfl
  | token => cases hs
  | password => cases hs
  | dsn => cases hs

/-- Two settings are both given or both not, with values that are alike. -/
abbrev AlikeOptions (s : Setting) : Option String → Option String → Prop :=
  Option.Rel (AlikeValues s)

section AlikeOptions

variable {s : Setting} {value value' : Option String}

theorem AlikeOptions.refl (s : Setting) (value : Option String) : AlikeOptions s value value := by
  cases value with
  | none => exact .none
  | some value => exact .some (.same s value)

theorem AlikeOptions.isSome_eq (h : AlikeOptions s value value') :
    value.isSome = value'.isSome := by
  cases h <;> rfl

theorem AlikeOptions.eq (h : AlikeOptions s value value') (hs : holdsSecret s = false) :
    value = value' := by
  cases h with
  | none => rfl
  | some h => rw [h.eq hs]

end AlikeOptions

/-- The same settings are given, with values that are alike. -/
def AlikeGivens (g g' : Given) : Prop := ∀ s, AlikeOptions s (g.get? s) (g'.get? s)

namespace AlikeGivens

variable {g g' : Given} (h : AlikeGivens g g')
include h

theorem has_eq (s : Setting) : g.has s = g'.has s := (h s).isSome_eq

theorem get?_eq {s : Setting} (hs : holdsSecret s = false) : g.get? s = g'.get? s := (h s).eq hs

theorem insert {s : Setting} {value value' : String} (hs : AlikeValues s value value') :
    AlikeGivens (g.insert s value) (g'.insert s value') := by
  intro t
  rw [Dictionary.get?_insert, Dictionary.get?_insert]
  by_cases hst : s = t
  · subst hst
    rw [if_pos rfl, if_pos rfl]
    exact .some hs
  · rw [if_neg hst, if_neg hst]
    exact h t

theorem put {s : Setting} {value value' : String} (hs : AlikeValues s value value') :
    BothOk AlikeGivens (Reading.put g s value) (Reading.put g' s value') := by
  rw [Reading.put, Reading.put]
  split
  · exact .of_error
  split
  · split
    · exact .of_error'
    split
    · exact .ok (h.insert hs)
    · exact .of_error'
  · exact .of_error

/-- What is counted is no secret. -/
theorem countUp {s : Setting} (hs : s.counts = true) :
    BothOk AlikeGivens (Reading.countUp g s) (Reading.countUp g' s) := by
  obtain rfl : s = .verbosity := of_decide_eq_true hs
  rw [Reading.countUp, Reading.countUp, h.get?_eq rfl]
  split
  · exact .ok (h.insert (.same _ _))
  · exact .of_error

end AlikeGivens

/-! ### Readings -/

/-- What is waited for is the same, up to a secret. -/
def AlikePending (p p' : Setting × Option String) : Prop :=
  p.1 = p'.1 ∧ AlikeOptions p.1 p.2 p'.2

/-- Two command lines are read equally far. -/
structure AlikeReadings (r r' : Reading) : Prop where
  /-- The same settings are given. -/
  given : AlikeGivens r.given r'.given
  /-- The same value is waited for. -/
  pending : Option.Rel AlikePending r.pending r'.pending

namespace AlikeReadings

variable {r r' : Reading} (h : AlikeReadings r r')
include h

theorem settled : BothOk AlikeGivens r.settled r'.settled := by
  obtain ⟨g, pending⟩ := r
  obtain ⟨g', pending'⟩ := r'
  obtain ⟨hgiven, hpending⟩ := h
  cases hpending with
  | none => exact .ok hgiven
  | @some p p' hp =>
    obtain ⟨s, value⟩ := p
    obtain ⟨s', value'⟩ := p'
    obtain ⟨rfl, hvalue⟩ := hp
    cases hvalue with
    | none => exact .of_error
    | some hvalue => exact hgiven.put hvalue

theorem bare (long : Bool) {choice : Choice} (hbare : choice.isBare = true) :
    BothOk AlikeReadings (r.bare long choice) (r'.bare long choice) := by
  refine h.settled.bind fun g g' hg => ?_
  cases choice with
  | help => exact .of_error
  | version => exact .of_error
  | setting s => exact (hg.countUp hbare).bind fun g g' hg => .ok ⟨hg, .none⟩

theorem valued {s : Setting} {value value' : Option String} (hs : AlikeOptions s value value') :
    BothOk AlikeReadings (r.valued s value) (r'.valued s value') := by
  refine h.settled.bind fun g g' hg => ?_
  cases hs with
  | none => exact .ok ⟨hg, .some ⟨rfl, .none⟩⟩
  | some hs => exact (hg.put hs).bind fun g g' hg => .ok ⟨hg, .none⟩

/-- An option that is given by its name, with values that are alike. -/
theorem long {name : List Char} {value value' : Option (List Char)}
    (hsome : value.isSome = value'.isSome)
    (hvalue : ∀ s, Choice.ofName? (String.ofList name) = some (.setting s) →
      AlikeOptions s (value.map String.ofList) (value'.map String.ofList)) :
    BothOk AlikeReadings (r.long name value) (r'.long name value') := by
  cases hchoice : Choice.ofName? (String.ofList name) with
  | none =>
    simp only [Reading.long, hchoice]
    exact .of_error
  | some choice =>
    cases choice with
    | setting s =>
      simp only [Reading.long, hchoice, hsome]
      cases hs : s.counts with
      | false => exact h.valued (hvalue s hchoice)
      | true =>
        cases value'.isSome with
        | false => exact h.bare true (show (Choice.setting s).isBare = true from hs)
        | true => exact .of_error
    | help | version =>
      cases value <;> cases value' <;> simp only [Reading.long, hchoice]
      case none.none => exact h.bare true rfl
      case some.some => exact .of_error
      all_goals cases hsome

/-- An option that is given by a letter, after which there are values that are alike. -/
theorem value_letters {s : Setting} {c : Char} {value value' : List Char}
    (hc : Choice.ofLetter? c = some (.setting s)) (hs : s.counts = false)
    (hvalue : AlikeOptions s (Reading.attached? value) (Reading.attached? value')) :
    BothOk AlikeReadings (r.letters (c :: value)) (r'.letters (c :: value')) := by
  rw [Reading.letters, Reading.letters, hc]
  dsimp only
  rw [hs]
  exact h.valued hvalue

/-- A letter of an option without a value, after which others come. -/
theorem counted_letters {s : Setting} {c : Char} {cs cs' : List Char}
    (hc : Choice.ofLetter? c = some (.setting s)) (hs : s.counts = true)
    (hrest : ∀ r r' : Reading, AlikeReadings r r' →
      BothOk AlikeReadings (r.letters cs) (r'.letters cs')) :
    BothOk AlikeReadings (r.letters (c :: cs)) (r'.letters (c :: cs')) := by
  rw [Reading.letters, Reading.letters, hc]
  dsimp only
  rw [hs]
  exact (h.bare false (show (Choice.setting s).isBare = true from hs)).bind hrest

/-- Options that are given by the same letters. -/
theorem letters (cs : List Char) : BothOk AlikeReadings (r.letters cs) (r'.letters cs) := by
  induction cs generalizing r r' with
  | nil => exact .ok h
  | cons c cs ih =>
    cases hc : Choice.ofLetter? c with
    | none =>
      rw [Reading.letters, hc]
      exact .of_error
    | some choice =>
      cases choice with
      | setting s =>
        cases hs : s.counts with
        | true => exact h.counted_letters hc hs fun r r' h => ih h
        | false => exact h.value_letters hc hs (.refl s _)
      | help =>
        rw [Reading.letters, Reading.letters, hc]
        exact h.bare false rfl
      | version =>
        rw [Reading.letters, Reading.letters, hc]
        exact h.bare false rfl

theorem plain {value value' : String}
    (hvalue : ∀ s, r.pending = some (s, none) → AlikeValues s value value') :
    BothOk AlikeReadings (r.plain value) (r'.plain value') := by
  rw [Reading.plain, Reading.plain]
  obtain ⟨g, pending⟩ := r
  obtain ⟨g', pending'⟩ := r'
  obtain ⟨hgiven, hpending⟩ := h
  cases hpending with
  | none => exact .of_error
  | @some p p' hp =>
    obtain ⟨s, none | value⟩ := p
    · obtain ⟨s', value'⟩ := p'
      obtain ⟨rfl, hp⟩ := hp
      cases hp
      exact .ok ⟨hgiven, .some ⟨rfl, .some (hvalue s rfl)⟩⟩
    · exact .of_error

/-- The same argument. -/
theorem next (argument : String) : BothOk AlikeReadings (r.next argument) (r'.next argument) := by
  rw [Reading.next, Reading.next]
  split
  · split
    · exact h.long rfl fun s _ => .refl s _
    · exact h.long rfl fun s _ => .refl s _
  · exact h.letters _
  · exact h.plain fun s _ => .same s argument

end AlikeReadings

/-! ### Arguments -/

/-- The ways to begin an argument that ends in a value of a setting: the name of the
    option, and the letter of the database, which others may come before. -/
inductive Opens : Setting → String → Prop
  | name (s : Setting) : Opens s ("--" ++ s.name ++ "=")
  | letter (n : Nat) : Opens .dsn (String.ofList ('-' :: (List.replicate n 'v' ++ ['d'])))
  | letterEquals (n : Nat) :
    Opens .dsn (String.ofList ('-' :: (List.replicate n 'v' ++ ['d', '='])))

/-- The arguments that a value of a setting is given after. -/
inductive Announces : Setting → String → Prop
  | name (s : Setting) (h : s.counts = false) : Announces s ("--" ++ s.name)
  | letter (n : Nat) : Announces .dsn (String.ofList ('-' :: (List.replicate n 'v' ++ ['d'])))

/-- Two command lines are the same but for secrets. -/
inductive AlikeArguments : List String → List String → Prop
  /-- There is nothing left. -/
  | nil : AlikeArguments [] []
  /-- The next argument is the same. -/
  | same {rest rest' : List String} (argument : String) (h : AlikeArguments rest rest') :
    AlikeArguments (argument :: rest) (argument :: rest')
  /-- The next argument ends in values that are alike. -/
  | attached {s : Setting} {beginning value value' : String} {rest rest' : List String}
    (hopens : Opens s beginning) (hvalue : AlikeValues s value value')
    (h : AlikeArguments rest rest') :
    AlikeArguments ((beginning ++ value) :: rest) ((beginning ++ value') :: rest')
  /-- The next argument announces values that are alike. -/
  | apart {s : Setting} {option value value' : String} {rest rest' : List String}
    (hannounces : Announces s option) (hvalue : AlikeValues s value value')
    (h : AlikeArguments rest rest') :
    AlikeArguments (option :: value :: rest) (option :: value' :: rest')

theorem next_letters (r : Reading) (n : Nat) (value : List Char) :
    r.next (String.ofList ('-' :: (List.replicate n 'v' ++ 'd' :: value))) =
      r.letters (List.replicate n 'v' ++ 'd' :: value) := by
  rw [Reading.next, String.toList_ofList]
  cases n <;> rfl

/-- An address is the value right after a letter as it is. -/
theorem attached?_text (d : Url.Dsn) : Reading.attached? d.text.toList = some d.text := by
  obtain ⟨rest, hrest⟩ : ∃ rest, d.text.toList = 'p' :: rest := by simp [Url.Dsn.text]
  have htext : d.text = String.ofList ('p' :: rest) := by rw [← hrest, String.ofList_toList]
  rw [hrest, htext]
  rfl

theorem AlikeValues.attached? {s : Setting} {value value' : String} (h : AlikeValues s value value')
    (hs : s = .dsn) : AlikeOptions s (Reading.attached? value.toList)
      (Reading.attached? value'.toList) := by
  cases h with
  | same => exact .refl s _
  | token => cases hs
  | password => cases hs
  | dsn huser hrest =>
    rw [attached?_text, attached?_text]
    exact .some (.dsn huser hrest)

namespace AlikeReadings

variable {r r' : Reading} (h : AlikeReadings r r')
include h

theorem letters_dsn {value value' : List Char}
    (hvalue : AlikeOptions .dsn (Reading.attached? value) (Reading.attached? value')) (n : Nat) :
    BothOk AlikeReadings (r.letters (List.replicate n 'v' ++ 'd' :: value))
      (r'.letters (List.replicate n 'v' ++ 'd' :: value')) := by
  induction n generalizing r r' with
  | zero => exact h.value_letters (s := .dsn) rfl rfl hvalue
  | succ n ih => exact h.counted_letters (s := .verbosity) rfl rfl fun r r' h => ih h

theorem attached {s : Setting} {beginning value value' : String} (hopens : Opens s beginning)
    (hvalue : AlikeValues s value value') :
    BothOk AlikeReadings (r.next (beginning ++ value)) (r'.next (beginning ++ value')) := by
  cases hopens with
  | name s =>
    rw [next_named, next_named]
    refine h.long rfl fun t ht => ?_
    obtain rfl : s = t := Choice.setting.inj (Option.some.inj ((ofName?_name s).symm.trans ht))
    simpa using hvalue
  | letter n =>
    have hchars (value : String) : String.ofList ('-' :: (List.replicate n 'v' ++ ['d'])) ++ value =
        String.ofList ('-' :: (List.replicate n 'v' ++ 'd' :: value.toList)) := by
      simp [← String.toList_inj]
    rw [hchars, hchars, next_letters, next_letters]
    exact h.letters_dsn (hvalue.attached? rfl) n
  | letterEquals n =>
    have hchars (value : String) :
        String.ofList ('-' :: (List.replicate n 'v' ++ ['d', '='])) ++ value =
          String.ofList ('-' :: (List.replicate n 'v' ++ 'd' :: '=' :: value.toList)) := by
      simp [← String.toList_inj]
    rw [hchars, hchars, next_letters, next_letters]
    refine h.letters_dsn (.some ?_) n
    simpa using hvalue

end AlikeReadings

/-- What an argument announces is waited for. -/
theorem pending_of_announces {r r' : Reading} {s : Setting} {option : String}
    (h : Announces s option) (hr : r.next option = .ok r') : r'.pending = some (s, none) := by
  cases h with
  | name s hs =>
    simp only [next_name, Reading.long, ofName?_name, hs] at hr
    exact pending_of_valued hr
  | letter n =>
    rw [next_letters] at hr
    induction n generalizing r with
    | zero => exact pending_of_valued hr
    | succ n ih =>
      have hv : r.letters (List.replicate (n + 1) 'v' ++ ['d']) =
          r.bare false (.setting .verbosity) >>=
            fun r => r.letters (List.replicate n 'v' ++ ['d']) := rfl
      rw [hv] at hr
      obtain ⟨r₁, -, hr⟩ := exists_of_bind_eq_ok hr
      exact ih hr

theorem ne_dashes_of_attached {s : Setting} {beginning : String} (h : Opens s beginning)
    (value : String) : beginning ++ value ≠ "--" := by
  intro heq
  have hchars := congrArg String.toList heq
  cases h with
  | name s => exact named_ne_dashes s value heq
  | letter n => cases n <;> simp [List.replicate_succ] at hchars
  | letterEquals n => cases n <;> simp [List.replicate_succ] at hchars

theorem ne_dashes_of_announces {s : Setting} {option : String} (h : Announces s option) :
    option ≠ "--" := by
  intro heq
  have hchars := congrArg String.toList heq
  cases h with
  | name s => exact name_ne_dashes s heq
  | letter n => cases n <;> simp [List.replicate_succ] at hchars

section Waiting

variable {r : Reading} {e : Stop} (hr : r.settled = .error e)
include hr

theorem bare_of_waiting (long : Bool) (choice : Choice) : r.bare long choice = .error e := by
  rw [Reading.bare, hr]
  rfl

theorem valued_of_waiting (s : Setting) (value : Option String) : r.valued s value = .error e := by
  rw [Reading.valued, hr]
  rfl

theorem long_of_waiting (name : List Char) (value : Option (List Char)) :
    (r.long name value).toOption = none := by
  cases hchoice : Choice.ofName? (String.ofList name) with
  | none => simp only [Reading.long, hchoice]; rfl
  | some choice =>
    cases choice with
    | setting s =>
      simp only [Reading.long, hchoice, valued_of_waiting hr, bare_of_waiting hr]
      cases s.counts <;> cases value <;> rfl
    | help | version =>
      cases value <;> simp only [Reading.long, hchoice, bare_of_waiting hr] <;> rfl

theorem letters_of_waiting (c : Char) (cs : List Char) :
    (r.letters (c :: cs)).toOption = none := by
  cases hc : Choice.ofLetter? c with
  | none => simp only [Reading.letters, hc]; rfl
  | some choice =>
    cases choice with
    | setting s =>
      simp only [Reading.letters, hc, valued_of_waiting hr, bare_of_waiting hr]
      cases s.counts <;> rfl
    | help | version => simp only [Reading.letters, hc, bare_of_waiting hr]; rfl

/-- As long as a value is waited for, no option is taken. -/
theorem next_of_waiting (argument : String) :
    r.next argument = r.plain argument ∨ (r.next argument).toOption = none := by
  rw [Reading.next]
  split
  · right
    split
    · exact long_of_waiting hr _ _
    · exact long_of_waiting hr _ _
  · exact .inr (letters_of_waiting hr _ _)
  · exact .inl rfl

end Waiting

/-- A value that is waited for is taken as it is. -/
theorem arguments_of_waiting {r : Reading} {s : Setting} (hr : r.pending = some (s, none))
    {value : String} {rest : List String} {g : Given} (h : r.arguments (value :: rest) = .ok g) :
    r.arguments (value :: rest) = r.plain value >>= fun r => r.arguments rest := by
  have hwaiting : r.settled = .error (.valueMissing s) := by rw [Reading.settled, hr]
  by_cases hdashes : value = "--"
  · subst hdashes
    rw [arguments_dashes] at h
    cases rest with
    | nil =>
      rw [hwaiting] at h
      cases h
    | cons => cases h
  · rw [arguments_cons r hdashes] at h ⊢
    rcases next_of_waiting hwaiting value with hplain | hnone
    · rw [hplain]
    · obtain ⟨r', hnext, -⟩ := exists_of_bind_eq_ok h
      rw [hnext] at hnone
      cases hnone

namespace AlikeReadings

theorem arguments {r r' : Reading} {args args' : List String} (h : AlikeReadings r r')
    (ha : AlikeArguments args args') :
    BothOk AlikeGivens (r.arguments args) (r'.arguments args') := by
  induction ha generalizing r r' with
  | nil => exact h.settled
  | @same rest rest' argument hrest ih =>
    by_cases hdashes : argument = "--"
    · subst hdashes
      rw [arguments_dashes, arguments_dashes]
      cases hrest with
      | nil => exact h.settled
      | same | attached | apart => exact .of_error
    · rw [arguments_cons r hdashes, arguments_cons r' hdashes]
      exact (h.next argument).bind fun r r' h => ih h
  | attached hopens hvalue hrest ih =>
    rw [arguments_cons r (ne_dashes_of_attached hopens _),
      arguments_cons r' (ne_dashes_of_attached hopens _)]
    exact (h.attached hopens hvalue).bind fun r r' h => ih h
  | @apart s option value value' rest rest' hannounces hvalue hrest ih =>
    rw [arguments_cons r (ne_dashes_of_announces hannounces),
      arguments_cons r' (ne_dashes_of_announces hannounces)]
    -- The values may differ in form, and one could be read as an option. No option is
    -- taken now, so if both are accepted, both are taken as values.
    have hwaiting : BothOk (fun r r' => AlikeReadings r r' ∧ r.pending = some (s, none) ∧
        r'.pending = some (s, none)) (r.next option) (r'.next option) :=
      fun r₁ r₁' h₁ h₁' => ⟨h.next option r₁ r₁' h₁ h₁', pending_of_announces hannounces h₁,
        pending_of_announces hannounces h₁'⟩
    refine hwaiting.bind fun r r' ⟨h, hr, hr'⟩ g g' hg hg' => ?_
    rw [arguments_of_waiting hr hg] at hg
    rw [arguments_of_waiting hr' hg'] at hg'
    have hplain : BothOk AlikeReadings (r.plain value) (r'.plain value') := by
      refine h.plain fun t ht => ?_
      obtain rfl : s = t := by
        rw [hr] at ht
        cases ht
        rfl
      exact hvalue
    exact hplain.bind (fun r r' h => ih h) g g' hg hg'

end AlikeReadings

/-! ### The environment -/

/-- Two environments are the same for the settings, but for secrets. -/
def AlikeEnvironments (environment environment' : String → Option String) : Prop :=
  ∀ s : Setting, AlikeOptions s (environment s.variableName) (environment' s.variableName)

theorem AlikeGivens.complete {environment environment' : String → Option String}
    (he : AlikeEnvironments environment environment') (settings : List Setting) {g g' : Given}
    (h : AlikeGivens g g') :
    BothOk AlikeGivens (complete environment g settings) (complete environment' g' settings) := by
  induction settings generalizing g g' with
  | nil => exact .ok h
  | cons s settings ih =>
    rw [CommandLine.complete, CommandLine.complete, h.has_eq s]
    split
    · exact ih h
    · generalize environment s.variableName = value, environment' s.variableName = value',
        he s = hs
      cases hs with
      | none => exact ih h
      | some hs => exact (h.put hs).bind fun g g' h => ih h

/-- If two command lines that are the same but for secrets are both accepted, the same
    settings are given, with values that are the same but for secrets. -/
theorem alike_read {environment environment' : String → Option String} {args args' : List String}
    (he : AlikeEnvironments environment environment') (ha : AlikeArguments args args') :
    BothOk AlikeGivens (read environment args) (read environment' args') := by
  have hstart : AlikeReadings .start .start := ⟨fun s => .refl s _, .none⟩
  refine (hstart.arguments ha).bind fun g g' hg => ?_
  refine (hg.complete he Setting.all).bind fun g g' hg => ?_
  cases checkStore g with
  | error e => exact .of_error
  | ok =>
    cases checkStore g' with
    | error e => exact .of_error'
    | ok => exact .ok hg

end LoginGate.CommandLine
