import LoginGate.CommandLine.Arguments

/-!
# Reading one argument

What the steps of the reader do with the options there are: which setting a name or a
letter stands for, what an argument with it comes to, and what is waited for then. The
equations are those by which a whole command line is followed.
-/

namespace LoginGate.CommandLine

/-- What succeeds in two steps succeeds in the first one. -/
theorem exists_of_bind_eq_ok {ε α β : Type} {x : Except ε α} {f : α → Except ε β} {b : β}
    (h : x >>= f = .ok b) : ∃ a, x = .ok a ∧ f a = .ok b := by
  cases x with
  | error e => cases h
  | ok a => exact ⟨a, rfl, h⟩

/-! ### Names and letters -/

theorem ofName?_name (s : Setting) :
    Choice.ofName? (String.ofList s.name.toList) = some (.setting s) := by
  cases s <;> decide

theorem equals_not_mem_name (s : Setting) : '=' ∉ s.name.toList := by
  cases s <;> decide

theorem ofLetter?_eq_some_iff {c : Char} {s : Setting} :
    Choice.ofLetter? c = some (.setting s) ↔ s.letter? = some c := by
  constructor
  · intro h
    unfold Choice.ofLetter? at h
    split at h
    · cases h
    · cases h
    · obtain ⟨t, hfind, heq⟩ := Option.map_eq_some_iff.1 h
      obtain rfl := Choice.setting.inj heq
      simpa using List.find?_some hfind
  · intro h
    cases s <;> simp only [Setting.letter?, Option.some.injEq, reduceCtorEq] at h
    all_goals
      subst h
      rfl

theorem name_of_ofName? {name : String} {s : Setting}
    (h : Choice.ofName? name = some (.setting s)) : s.name = name := by
  unfold Choice.ofName? at h
  split at h
  · cases h
  · cases h
  · obtain ⟨t, hfind, heq⟩ := Option.map_eq_some_iff.1 h
    obtain rfl := Choice.setting.inj heq
    simpa using List.find?_some hfind

theorem letter_ne_dash {s : Setting} {c : Char} (h : s.letter? = some c) : c ≠ '-' := by
  rintro rfl
  cases s <;> exact absurd h (by decide)

/-! ### Options by name and by letter -/

section

variable {r r' : Reading} {s : Setting}

theorem next_named (r : Reading) (s : Setting) (value : String) :
    r.next ("--" ++ s.name ++ "=" ++ value) = r.long s.name.toList (some value.toList) := by
  have hchars : ("--" ++ s.name ++ "=" ++ value).toList =
      '-' :: '-' :: (s.name.toList ++ '=' :: value.toList) := by simp
  have hcut : Text.cut? '=' (s.name.toList ++ '=' :: value.toList) =
      some (s.name.toList, value.toList) := Text.cut?_eq_some.2 ⟨rfl, equals_not_mem_name s⟩
  simp only [Reading.next, hchars, hcut]

theorem next_name (r : Reading) (s : Setting) : r.next ("--" ++ s.name) = r.long s.name.toList none := by
  have hchars : ("--" ++ s.name).toList = '-' :: '-' :: s.name.toList := by simp
  have hcut : Text.cut? '=' s.name.toList = none := by cases s <;> decide
  simp only [Reading.next, hchars, hcut]

theorem long_valued (hs : s.counts = false) (value : Option (List Char)) :
    r.long s.name.toList value = r.valued s (value.map String.ofList) := by
  simp only [Reading.long, ofName?_name, hs]
  rfl

theorem long_counted (hs : s.counts = true) :
    r.long s.name.toList none = r.bare true (.setting s) := by
  simp only [Reading.long, ofName?_name, hs]
  rfl

theorem letters_counted {c : Char} (hc : s.letter? = some c) (hs : s.counts = true)
    (cs : List Char) :
    r.letters (c :: cs) = r.bare false (.setting s) >>= fun r => r.letters cs := by
  rw [Reading.letters, ofLetter?_eq_some_iff.2 hc]
  dsimp only
  rw [if_pos hs]

theorem letters_valued {c : Char} (hc : s.letter? = some c) (hs : s.counts = false)
    (cs : List Char) : r.letters (c :: cs) = r.valued s (Reading.attached? cs) := by
  rw [Reading.letters, ofLetter?_eq_some_iff.2 hc]
  dsimp only
  rw [hs]
  rfl

theorem attached?_of_ne {d : Char} (hd : d ≠ '=') (value : List Char) :
    Reading.attached? (d :: value) = some (String.ofList (d :: value)) := by
  rw [Reading.attached?]
  · exact nofun
  · exact fun _ heq => hd (List.cons.inj heq).1

/-- The first letter is that of a setting. -/
theorem exists_letter {c : Char} {cs : List Char} (h : r.letters (c :: cs) = .ok r') :
    ∃ s : Setting, s.letter? = some c := by
  rcases hchoice : Choice.ofLetter? c with _ | choice
  · rw [Reading.letters, hchoice] at h
    cases h
  rcases choice with _ | _ | s
  · rw [Reading.letters, hchoice] at h
    obtain ⟨g, -, hg⟩ := exists_of_bind_eq_ok h
    cases hg
  · rw [Reading.letters, hchoice] at h
    obtain ⟨g, -, hg⟩ := exists_of_bind_eq_ok h
    cases hg
  · exact ⟨s, ofLetter?_eq_some_iff.1 hchoice⟩

/-! ### What is waited for -/

theorem pending_of_valued (h : r.valued s none = .ok r') :
    r'.pending = some (s, none) := by
  obtain ⟨g, -, hg⟩ := exists_of_bind_eq_ok h
  obtain rfl := Except.ok.inj hg
  rfl

/-- Nothing is waited for after an option that is counted. -/
theorem pending_of_bare {long : Bool} (h : r.bare long (.setting s) = .ok r') :
    r'.pending = none := by
  obtain ⟨g, -, hcount⟩ := exists_of_bind_eq_ok h
  obtain ⟨g', -, heq⟩ := exists_of_bind_eq_ok hcount
  obtain rfl := Except.ok.inj heq
  rfl

/-- Nothing is waited for after an option with its value. -/
theorem pending_of_valued_some {value : String}
    (h : r.valued s (some value) = .ok r') : r'.pending = none := by
  obtain ⟨g, -, hput⟩ := exists_of_bind_eq_ok h
  obtain ⟨g', -, heq⟩ := exists_of_bind_eq_ok hput
  obtain rfl := Except.ok.inj heq
  rfl

/-! ### One argument after another -/

theorem arguments_cons (r : Reading) {argument : String} (h : argument ≠ "--")
    (rest : List String) : r.arguments (argument :: rest) =
      r.next argument >>= fun r => r.arguments rest := by
  rw [Reading.arguments.eq_def]
  exact if_neg h

theorem arguments_dashes (r : Reading) (rest : List String) : r.arguments ("--" :: rest) =
    match rest with
    | [] => r.settled
    | surplus :: _ => .error (.unknown surplus) := by
  rw [Reading.arguments.eq_def]
  rfl

theorem name_ne_dashes (s : Setting) : "--" ++ s.name ≠ "--" := by
  cases s <;> decide

theorem named_ne_dashes (s : Setting) (value : String) : "--" ++ s.name ++ "=" ++ value ≠ "--" := by
  intro heq
  have hchars := congrArg String.toList heq
  cases s <;> simp [Setting.name] at hchars

end

end LoginGate.CommandLine
