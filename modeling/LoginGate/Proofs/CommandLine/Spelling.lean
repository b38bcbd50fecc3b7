import LoginGate.Proofs.CommandLine.Arguments

/-!
# What arguments spell

A command line is a list of options, each given in one of a few ways (`Spells`): by its
name with a value after an equals sign or in the next argument, or by its letter,
which letters of options without a value may come before. A value that stands in
an argument of its own does not begin with a dash.

The arguments are read one after another, and what is waited for is put in late.
Still this comes to taking the options one by one (`arguments_of_spells`), and
nothing else is accepted (`exists_spells`). So an accepted command line gives a
setting the value of its option, or the number of times that the option is counted.
-/

namespace LoginGate.CommandLine

/-! ### Options that are given -/

/-- An option as it is given: with its value, or without one if it is counted. -/
abbrev Occurrence : Type := Setting × Option String

/-- The value stands in an argument of its own. It does not begin with a dash, unless it is
    nothing but that. -/
def IsPlain (value : String) : Prop := ∀ c rest, value.toList ≠ '-' :: c :: rest

/-- Letters of options, the options that they give, and the setting whose value is to
    follow in the next argument. -/
inductive Letters : List Char → List Occurrence → Option Setting → Prop
  /-- There are no letters left. -/
  | done : Letters [] [] none
  /-- An option is counted. -/
  | counted {s : Setting} {c : Char} {cs : List Char} {os : List Occurrence}
    {waiting : Option Setting} (hc : s.letter? = some c) (hs : s.counts = true)
    (h : Letters cs os waiting) : Letters (c :: cs) ((s, none) :: os) waiting
  /-- The value stands after an equals sign. -/
  | equals {s : Setting} {c : Char} {value : List Char} (hc : s.letter? = some c)
    (hs : s.counts = false) : Letters (c :: '=' :: value) [(s, some (String.ofList value))] none
  /-- The value stands right after the letter. -/
  | attached {s : Setting} {c d : Char} {value : List Char} (hc : s.letter? = some c)
    (hs : s.counts = false) (hd : d ≠ '=') :
    Letters (c :: d :: value) [(s, some (String.ofList (d :: value)))] none
  /-- The value is in the next argument. -/
  | apart {s : Setting} {c : Char} (hc : s.letter? = some c) (hs : s.counts = false) :
    Letters [c] [] (some s)

/-- Arguments, and the options that they give. -/
inductive Spells : List String → List Occurrence → Prop
  /-- There is nothing left. -/
  | nil : Spells [] []
  /-- Nothing is said after two dashes. -/
  | dashes : Spells ["--"] []
  /-- The value stands after the name. -/
  | named {s : Setting} {value : String} {rest : List String} {os : List Occurrence}
    (hs : s.counts = false) (h : Spells rest os) :
    Spells (("--" ++ s.name ++ "=" ++ value) :: rest) ((s, some value) :: os)
  /-- The value stands in the argument after the name. -/
  | apart {s : Setting} {value : String} {rest : List String} {os : List Occurrence}
    (hs : s.counts = false) (hvalue : IsPlain value) (h : Spells rest os) :
    Spells (("--" ++ s.name) :: value :: rest) ((s, some value) :: os)
  /-- The option is counted. -/
  | counted {s : Setting} {rest : List String} {os : List Occurrence} (hs : s.counts = true)
    (h : Spells rest os) : Spells (("--" ++ s.name) :: rest) ((s, none) :: os)
  /-- Options are given by letters. -/
  | letters {c : Char} {cs : List Char} {given os : List Occurrence} {rest : List String}
    (hcs : Letters (c :: cs) given none) (h : Spells rest os) :
    Spells (String.ofList ('-' :: c :: cs) :: rest) (given ++ os)
  /-- Options are given by letters, and the last one's value stands in the next argument. -/
  | lettersApart {s : Setting} {c : Char} {cs : List Char} {given os : List Occurrence}
    {value : String} {rest : List String} (hcs : Letters (c :: cs) given (some s))
    (hvalue : IsPlain value) (h : Spells rest os) :
    Spells (String.ofList ('-' :: c :: cs) :: value :: rest) (given ++ (s, some value) :: os)

/-- Takes an option. -/
def take (g : Given) : Occurrence → Except Stop Given
  | (s, none) => Reading.countUp g s
  | (s, some value) => Reading.put g s value

/-- Takes options one after another. -/
def takeAll (g : Given) (os : List Occurrence) : Except Stop Given := os.foldlM take g

/-! ### Options are taken one by one -/

section Taking

variable {r : Reading} {g : Given} {os os' : List Occurrence}

theorem takeAll_cons (g : Given) (o : Occurrence) (os : List Occurrence) :
    takeAll g (o :: os) = take g o >>= fun g => takeAll g os := List.foldlM_cons

theorem takeAll_append (g : Given) (os os' : List Occurrence) :
    takeAll g (os ++ os') = takeAll g os >>= fun g => takeAll g os' := List.foldlM_append

theorem bare_eq (r : Reading) (long : Bool) (s : Setting) :
    r.bare long (.setting s) =
      r.settled >>= fun g => take g (s, none) >>= fun g => .ok ⟨g, none⟩ := rfl

theorem valued_some_eq (r : Reading) (s : Setting) (value : String) :
    r.valued s (some value) =
      r.settled >>= fun g => take g (s, some value) >>= fun g => .ok ⟨g, none⟩ := rfl

theorem valued_none_eq (r : Reading) (s : Setting) :
    r.valued s none = r.settled >>= fun g => .ok ⟨g, some (s, none)⟩ := rfl

/-- Letters give their options one by one. -/
theorem letters_eq {c : Char} {cs : List Char} {waiting : Option Setting}
    (h : Letters (c :: cs) os waiting) (r : Reading) :
    r.letters (c :: cs) = r.settled >>= fun g => takeAll g os >>= fun g =>
      .ok ⟨g, waiting.map (·, none)⟩ := by
  generalize hall : c :: cs = all at h
  induction h generalizing c cs r with
  | done => cases hall
  | @counted s c' cs' os waiting hc hs h ih =>
    rw [letters_counted hc hs, bare_eq, bind_assoc]
    refine congrArg _ (funext fun g => ?_)
    rw [takeAll_cons, bind_assoc, bind_assoc]
    refine congrArg _ (funext fun g => ?_)
    rcases cs' with _ | ⟨d, cs'⟩
    · cases h
      rfl
    · exact ih ⟨g, none⟩ rfl
  | equals hc hs =>
    rw [letters_valued hc hs, Reading.attached?, valued_some_eq]
    refine congrArg _ (funext fun g => ?_)
    rw [takeAll_cons, bind_assoc]
    rfl
  | attached hc hs hd =>
    rw [letters_valued hc hs, attached?_of_ne hd, valued_some_eq]
    refine congrArg _ (funext fun g => ?_)
    rw [takeAll_cons, bind_assoc]
    rfl
  | apart hc hs => exact letters_valued hc hs []

/-- An argument of letters is no other argument. -/
theorem next_dash {c : Char} (hc : c ≠ '-') (cs : List Char) :
    r.next (String.ofList ('-' :: c :: cs)) = r.letters (c :: cs) := by
  unfold Reading.next
  rw [String.toList_ofList]
  split
  · next heq => exact absurd (List.cons.inj (List.cons.inj heq).2).1 hc
  · next heq =>
    obtain ⟨rfl, rfl⟩ := List.cons.inj (List.cons.inj heq).2
    rfl
  · next h => exact absurd rfl (h c cs)

theorem next_plain {value : String} (h : IsPlain value) : r.next value = r.plain value := by
  unfold Reading.next
  split
  · next heq => exact absurd heq (h _ _)
  · next heq => exact absurd heq (h _ _)
  · rfl

theorem ne_dashes_of_letter {c : Char} (cs : List Char) (hc : c ≠ '-') :
    String.ofList ('-' :: c :: cs) ≠ "--" := by
  intro heq
  have hchars := congrArg String.toList heq
  rw [String.toList_ofList] at hchars
  exact hc (List.cons.inj (List.cons.inj hchars).2).1

theorem Letters.ne_dash {c : Char} {cs : List Char} {waiting : Option Setting}
    (h : Letters (c :: cs) os waiting) : c ≠ '-' := by
  cases h with
  | counted hc | equals hc | attached hc | apart hc => exact letter_ne_dash hc

theorem IsPlain.ne_dashes {value : String} (h : IsPlain value) : value ≠ "--" := by
  rintro rfl
  exact h '-' [] rfl

/-- A value that is waited for is taken with its option. -/
theorem arguments_of_waiting_plain {s : Setting} {value : String} (hvalue : IsPlain value)
    (rest : List String) :
    (⟨g, some (s, none)⟩ : Reading).arguments (value :: rest) =
      (⟨g, some (s, some value)⟩ : Reading).arguments rest := by
  rw [arguments_cons _ hvalue.ne_dashes, next_plain hvalue]
  rfl

/-- Arguments are read as the options that they give, one after another. -/
theorem arguments_of_spells {args : List String} (h : Spells args os) (r : Reading) :
    r.arguments args = r.settled >>= fun g => takeAll g os := by
  induction h generalizing r with
  | nil => exact (bind_pure r.settled).symm
  | dashes =>
    rw [arguments_dashes]
    exact (bind_pure r.settled).symm
  | @named s value rest os hs h ih =>
    rw [arguments_cons r (named_ne_dashes s value), next_named, long_valued hs, Option.map_some, String.ofList_toList,
      valued_some_eq, bind_assoc]
    refine congrArg _ (funext fun g => ?_)
    rw [takeAll_cons, bind_assoc]
    refine congrArg _ (funext fun g => ?_)
    exact ih ⟨g, none⟩
  | @apart s value rest os hs hvalue h ih =>
    rw [arguments_cons r (name_ne_dashes s), next_name, long_valued hs,
      Option.map_none, valued_none_eq, bind_assoc]
    refine congrArg _ (funext fun g => ?_)
    exact (arguments_of_waiting_plain hvalue rest).trans (ih ⟨g, some (s, some value)⟩)
  | @counted s rest os hs h ih =>
    rw [arguments_cons r (name_ne_dashes s), next_name, long_counted hs, bare_eq, bind_assoc]
    refine congrArg _ (funext fun g => ?_)
    rw [takeAll_cons, bind_assoc]
    refine congrArg _ (funext fun g => ?_)
    exact ih ⟨g, none⟩
  | @letters c cs given os rest hcs h ih =>
    rw [arguments_cons r (ne_dashes_of_letter cs hcs.ne_dash), next_dash hcs.ne_dash,
      letters_eq hcs, bind_assoc]
    refine congrArg _ (funext fun g => ?_)
    rw [takeAll_append, bind_assoc]
    refine congrArg _ (funext fun g => ?_)
    exact ih ⟨g, none⟩
  | @lettersApart s c cs given os value rest hcs hvalue h ih =>
    rw [arguments_cons r (ne_dashes_of_letter cs hcs.ne_dash), next_dash hcs.ne_dash,
      letters_eq hcs, bind_assoc]
    refine congrArg _ (funext fun g => ?_)
    rw [takeAll_append, bind_assoc]
    refine congrArg _ (funext fun g => ?_)
    exact (arguments_of_waiting_plain hvalue rest).trans (ih ⟨g, some (s, some value)⟩)

theorem takeAll_of_spells {args : List String} (hos : Spells args os)
    (h : Reading.start.arguments args = .ok g) : takeAll .empty os = .ok g :=
  (arguments_of_spells hos Reading.start).symm.trans h

end Taking

/-! ### Nothing else is accepted -/

section Accepted

variable {r r' : Reading} {g : Given}

/-- What an argument does that is accepted. -/
inductive Takes (r : Reading) : String → Reading → Prop
  /-- An option with its value. -/
  | named {s : Setting} {value : String} {r' : Reading} (hs : s.counts = false)
    (h : r.valued s (some value) = .ok r') : Takes r ("--" ++ s.name ++ "=" ++ value) r'
  /-- An option whose value is to follow. -/
  | apart {s : Setting} {r' : Reading} (hs : s.counts = false) (h : r.valued s none = .ok r') :
    Takes r ("--" ++ s.name) r'
  /-- An option that is counted. -/
  | counted {s : Setting} {r' : Reading} (hs : s.counts = true)
    (h : r.bare true (.setting s) = .ok r') : Takes r ("--" ++ s.name) r'
  /-- Letters. -/
  | letters {c : Char} {cs : List Char} {r' : Reading} (h : r.letters (c :: cs) = .ok r') :
    Takes r (String.ofList ('-' :: c :: cs)) r'
  /-- A value. -/
  | plain {value : String} {r' : Reading} (hvalue : IsPlain value) (h : r.plain value = .ok r') :
    Takes r value r'

theorem takes_of_long {name : List Char} {value : Option (List Char)}
    (h : r.long name value = .ok r') :
    Takes r ("--" ++ String.ofList name ++
      (value.map fun value => "=" ++ String.ofList value).getD "") r' := by
  rcases hchoice : Choice.ofName? (String.ofList name) with _ | choice
  · simp only [Reading.long, hchoice] at h
    cases h
  rcases choice with _ | _ | s
  · rcases value with _ | value <;> simp only [Reading.long, hchoice] at h
    · obtain ⟨g, -, hg⟩ := exists_of_bind_eq_ok h
      cases hg
    · cases h
  · rcases value with _ | value <;> simp only [Reading.long, hchoice] at h
    · obtain ⟨g, -, hg⟩ := exists_of_bind_eq_ok h
      cases hg
    · cases h
  · have hname := name_of_ofName? hchoice
    obtain rfl : s.name.toList = name := by rw [hname, String.toList_ofList]
    rw [String.ofList_toList]
    rcases hs : s.counts with _ | _
    · rw [long_valued hs] at h
      rcases value with _ | value
      · rw [Option.map_none, Option.getD_none, String.append_empty]
        exact .apart hs h
      · rw [Option.map_some, Option.getD_some, ← String.append_assoc]
        exact .named hs h
    · rcases value with _ | value
      · rw [long_counted hs] at h
        rw [Option.map_none, Option.getD_none, String.append_empty]
        exact .counted hs h
      · simp only [Reading.long, hchoice, hs] at h
        cases h

theorem takes_of_next {argument : String} (h : r.next argument = .ok r') :
    Takes r argument r' := by
  unfold Reading.next at h
  split at h
  · next option hchars =>
    split at h
    · next name value hcut =>
      obtain ⟨rfl, -⟩ := Text.cut?_eq_some.1 hcut
      have htext : argument = "--" ++ String.ofList name ++ ("=" ++ String.ofList value) := by
        rw [← String.toList_inj, hchars]
        simp
      rw [htext]
      exact takes_of_long h
    · have htext : argument = "--" ++ String.ofList option ++ "" := by
        rw [← String.toList_inj, hchars]
        simp
      rw [htext]
      exact takes_of_long h
  · next c rest hdash hchars =>
    rw [← String.ofList_toList (s := argument), hchars]
    exact .letters h
  · next hdashes hdash => exact .plain (fun c rest heq => hdash c rest heq) h

/-- Letters that are accepted give options, and a value is waited for as they say. -/
theorem exists_letters {c : Char} {cs : List Char} (h : r.letters (c :: cs) = .ok r') :
    ∃ os waiting, Letters (c :: cs) os waiting ∧ r'.pending = waiting.map (·, none) := by
  induction cs generalizing r c with
  | nil =>
    obtain ⟨s, hc⟩ := exists_letter h
    rcases hs : s.counts with _ | _
    · rw [letters_valued hc hs] at h
      exact ⟨[], some s, .apart hc hs, pending_of_valued h⟩
    · rw [letters_counted hc hs] at h
      obtain ⟨r₁, hbare, hrest⟩ := exists_of_bind_eq_ok h
      obtain rfl := Except.ok.inj hrest
      exact ⟨[(s, none)], none, .counted hc hs .done, pending_of_bare hbare⟩
  | cons d cs ih =>
    obtain ⟨s, hc⟩ := exists_letter h
    rcases hs : s.counts with _ | _
    · rw [letters_valued hc hs] at h
      by_cases hd : d = '='
      · subst hd
        exact ⟨_, none, .equals hc hs, pending_of_valued_some h⟩
      · rw [attached?_of_ne hd] at h
        exact ⟨_, none, .attached hc hs hd, pending_of_valued_some h⟩
    · rw [letters_counted hc hs] at h
      obtain ⟨r₁, -, hrest⟩ := exists_of_bind_eq_ok h
      obtain ⟨os, waiting, hcs, hpending⟩ := ih hrest
      exact ⟨_, waiting, .counted hc hs hcs, hpending⟩

/-- What arguments spell if a value may be waited for before them: that value comes first. -/
def SpellsAfter : Option (Setting × Option String) → List String → Prop
  | some (_, none), args => ∃ value rest os, args = value :: rest ∧ IsPlain value ∧ Spells rest os
  | _, args => ∃ os, Spells args os

theorem spellsAfter_of_settled (h : r.settled = .ok g) {args : List String} {os : List Occurrence}
    (hspells : Spells args os) : SpellsAfter r.pending args := by
  obtain ⟨given, _ | ⟨s, _ | value⟩⟩ := r
  · exact ⟨os, hspells⟩
  · cases h
  · exact ⟨os, hspells⟩

theorem spellsAfter_of_arguments {args : List String} (h : r.arguments args = .ok g) :
    SpellsAfter r.pending args := by
  induction args generalizing r with
  | nil => exact spellsAfter_of_settled h .nil
  | cons argument rest ih =>
    by_cases hdashes : argument = "--"
    · subst hdashes
      rw [arguments_dashes] at h
      rcases rest with _ | ⟨surplus, rest⟩
      · exact spellsAfter_of_settled h .dashes
      · cases h
    · rw [arguments_cons r hdashes] at h
      obtain ⟨r', hnext, hrest⟩ := exists_of_bind_eq_ok h
      have hafter := ih hrest
      cases takes_of_next hnext with
      | named hs hvalued =>
        obtain ⟨g', hsettled, -⟩ := exists_of_bind_eq_ok hvalued
        rw [pending_of_valued_some hvalued] at hafter
        obtain ⟨os, hos⟩ := hafter
        exact spellsAfter_of_settled hsettled (.named hs hos)
      | apart hs hvalued =>
        obtain ⟨g', hsettled, -⟩ := exists_of_bind_eq_ok hvalued
        rw [pending_of_valued hvalued] at hafter
        obtain ⟨value, rest', os, rfl, hvalue, hos⟩ := hafter
        exact spellsAfter_of_settled hsettled (.apart hs hvalue hos)
      | counted hs hbare =>
        obtain ⟨g', hsettled, -⟩ := exists_of_bind_eq_ok hbare
        rw [pending_of_bare hbare] at hafter
        obtain ⟨os, hos⟩ := hafter
        exact spellsAfter_of_settled hsettled (.counted hs hos)
      | letters hletters =>
        obtain ⟨given, waiting, hcs, hpending⟩ := exists_letters hletters
        rw [letters_eq hcs] at hletters
        obtain ⟨g', hsettled, -⟩ := exists_of_bind_eq_ok hletters
        rw [hpending] at hafter
        rcases waiting with _ | s
        · obtain ⟨os, hos⟩ := hafter
          exact spellsAfter_of_settled hsettled (.letters hcs hos)
        · obtain ⟨value, rest', os, rfl, hvalue, hos⟩ := hafter
          exact spellsAfter_of_settled hsettled (.lettersApart hcs hvalue hos)
      | plain hvalue hplain =>
        obtain ⟨given, _ | ⟨s, _ | value⟩⟩ := r
        · cases hplain
        · obtain rfl := Except.ok.inj hplain
          obtain ⟨os, hos⟩ := hafter
          exact ⟨argument, rest, os, rfl, hvalue, hos⟩
        · cases hplain

/-- Arguments that are accepted spell options. -/
theorem exists_spells {args : List String} (h : Reading.start.arguments args = .ok g) :
    ∃ os, Spells args os := spellsAfter_of_arguments h

/-- Arguments are accepted exactly if they spell options that can be taken one after
    another, and then these are what is given. -/
theorem arguments_eq_ok_iff {args : List String} : Reading.start.arguments args = .ok g ↔
    ∃ os, Spells args os ∧ takeAll .empty os = .ok g := by
  constructor
  · intro h
    obtain ⟨os, hos⟩ := exists_spells h
    exact ⟨os, hos, takeAll_of_spells hos h⟩
  · rintro ⟨os, hos, htake⟩
    exact (arguments_of_spells hos Reading.start).trans htake

end Accepted

end LoginGate.CommandLine
