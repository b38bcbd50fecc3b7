import LoginGate.Proofs.CommandLine.Spelling
import LoginGate.Proofs.Text.Numeral

/-!
# What settings are given

A setting that is read has the value of its option on the command line, which is given
only once (`once_of_takeAll`), or the number of times that the option is counted; if the
option is not there, the value of its variable in the environment; and otherwise none
(`get?_of_read`). A value that is given is one that the setting admits (`Admitted`), and
it may be blank. What the environment says of a setting on the command line is not even
looked at.
-/

namespace LoginGate.CommandLine

/-- The value that options give a setting: that of its option, or how often the option
    is counted. -/
def optionValue (os : List Occurrence) (s : Setting) : Option String :=
  if s.counts then
    if os.count (s, none) = 0 then none else some (Text.numeral (os.count (s, none)))
  else (os.find? fun o => o.1 = s).bind Prod.snd

/-- What the command line says of a setting counts first, and then the environment. -/
def settingValue (os : List Occurrence) (environment : String → Option String) (s : Setting) :
    Option String :=
  (optionValue os s).or (environment s.variableName)

/-- Every value that is given is one of its setting. -/
def Admitted (g : Given) : Prop := ∀ s value, g.get? s = some value → s.admits value = true

/-- An option has a value unless it is counted. -/
def IsOption (o : Occurrence) : Prop := o.2 = none ↔ o.1.counts = true

/-! ### Options -/

section Options

variable {s : Setting} {value : String} {os : List Occurrence}

theorem isOption_counted (hs : s.counts = true) : IsOption (s, none) := iff_of_true rfl hs

theorem isOption_valued (hs : s.counts = false) (value : String) : IsOption (s, some value) :=
  iff_of_false (Option.some_ne_none value) (Bool.eq_false_iff.1 hs)

theorem eq_verbosity_of_counts (hs : s.counts = true) : s = .verbosity := eq_of_beq hs

theorem Letters.isOption {cs : List Char} {waiting : Option Setting} (h : Letters cs os waiting) :
    (∀ o ∈ os, IsOption o) ∧ ∀ s ∈ waiting, s.counts = false := by
  induction h with
  | done => simp
  | counted hc hs h ih => exact ⟨List.forall_mem_cons.2 ⟨isOption_counted hs, ih.1⟩, ih.2⟩
  | equals hc hs | attached hc hs => simp [isOption_valued hs]
  | apart hc hs => simp [hs]

/-- What is spelled are options. -/
theorem Spells.isOption {args : List String} (h : Spells args os) : ∀ o ∈ os, IsOption o := by
  induction h with
  | nil | dashes => simp
  | named hs h ih | apart hs hvalue h ih =>
    exact List.forall_mem_cons.2 ⟨isOption_valued hs _, ih⟩
  | counted hs h ih => exact List.forall_mem_cons.2 ⟨isOption_counted hs, ih⟩
  | letters hcs h ih => exact List.forall_mem_append.2 ⟨hcs.isOption.1, ih⟩
  | lettersApart hcs hvalue h ih =>
    have hs := hcs.isOption.2 _ rfl
    exact List.forall_mem_append.2
      ⟨hcs.isOption.1, List.forall_mem_cons.2 ⟨isOption_valued hs _, ih⟩⟩

theorem optionValue_valued (hs : s.counts = false) (os : List Occurrence) :
    optionValue os s = (os.find? fun o => o.1 = s).bind Prod.snd := by
  rw [optionValue, hs]
  rfl

theorem optionValue_counted (hs : s.counts = true) (os : List Occurrence) :
    optionValue os s = if os.count (s, none) = 0 then none
      else some (Text.numeral (os.count (s, none))) := by
  rw [optionValue, if_pos hs]

end Options

section Values

variable {g g' : Given} {s t : Setting} {value : String} {o : Occurrence} {os : List Occurrence}

/-! ### One option -/

theorem put_eq_ok_iff : Reading.put g s value = .ok g' ↔
    g.get? s = none ∧ s.admits value = true ∧ g' = g.insert s value := by
  rw [Reading.put]
  rcases hget : g.get? s with _ | v
  · have hhas : g.has s = false := by rw [Dictionary.has, hget]; rfl
    rw [hhas]
    rcases s.admits value with _ | _ <;> simp [eq_comm]
  · have hhas : g.has s = true := by rw [Dictionary.has, hget]; rfl
    rw [hhas]
    simp

/-- How often an option is counted so far, as its value says. -/
def countOf (g : Given) (s : Setting) : Nat := ((g.get? s).bind readVerbosity?).getD 0

theorem countUp_eq_ok_iff : Reading.countUp g s = .ok g' ↔
    s.admits (Text.numeral (countOf g s + 1)) = true ∧
      g' = g.insert s (Text.numeral (countOf g s + 1)) := by
  rw [Reading.countUp, ← countOf]
  rcases s.admits (Text.numeral (countOf g s + 1)) with _ | _ <;> simp [eq_comm]

/-- What an option with a value changes: its setting was not given before. -/
theorem get?_of_put (h : Reading.put g t value = .ok g') (s : Setting) :
    g'.get? s = if t = s then some value else g.get? s := by
  obtain ⟨-, -, rfl⟩ := put_eq_ok_iff.1 h
  exact Dictionary.get?_insert g t s value

theorem get?_of_countUp (h : Reading.countUp g t = .ok g') (s : Setting) :
    g'.get? s = if t = s then some (Text.numeral (countOf g t + 1)) else g.get? s := by
  obtain ⟨-, rfl⟩ := countUp_eq_ok_iff.1 h
  exact Dictionary.get?_insert g t s _

/-! ### Values that are admitted -/

theorem admitted_empty : Admitted .empty := fun _ _ h => by cases h

theorem Admitted.insert (h : Admitted g) (hvalue : s.admits value = true) :
    Admitted (g.insert s value) := by
  intro t v hv
  rw [Dictionary.get?_insert] at hv
  by_cases hst : s = t
  · subst hst
    rw [if_pos rfl] at hv
    exact Option.some.inj hv ▸ hvalue
  · rw [if_neg hst] at hv
    exact h t v hv

theorem Admitted.put (h : Admitted g) (hput : Reading.put g s value = .ok g') : Admitted g' := by
  obtain ⟨-, hadmits, rfl⟩ := put_eq_ok_iff.1 hput
  exact h.insert hadmits

theorem Admitted.take (h : Admitted g) (htake : take g o = .ok g') : Admitted g' := by
  obtain ⟨s, _ | value⟩ := o
  · obtain ⟨hadmits, rfl⟩ := countUp_eq_ok_iff.1 htake
    exact h.insert hadmits
  · exact h.put htake

theorem Admitted.takeAll (h : Admitted g) (htake : takeAll g os = .ok g') : Admitted g' := by
  induction os generalizing g with
  | nil => exact Except.ok.inj htake ▸ h
  | cons o os ih =>
    rw [takeAll_cons] at htake
    obtain ⟨g₁, hfirst, hrest⟩ := exists_of_bind_eq_ok htake
    exact ih (h.take hfirst) hrest

/-! ### Options with a value -/

/-- An option with a value is given once at most, and not at all if its setting is
    given already. -/
theorem once_of_takeAll (hos : ∀ o ∈ os, IsOption o) (hs : s.counts = false)
    (h : takeAll g os = .ok g') : os.countP (·.1 = s) ≤ if g.get? s = none then 1 else 0 := by
  induction os generalizing g with
  | nil => simp
  | cons o os ih =>
    obtain ⟨ho, hos⟩ := List.forall_mem_cons.1 hos
    rw [takeAll_cons] at h
    obtain ⟨g₁, hfirst, hrest⟩ := exists_of_bind_eq_ok h
    have hle := ih hos hrest
    rw [List.countP_cons]
    obtain ⟨t, _ | value⟩ := o
    · have hts : t ≠ s := by
        rintro rfl
        exact absurd (ho.1 rfl) (Bool.eq_false_iff.1 hs)
      rw [get?_of_countUp hfirst, if_neg hts] at hle
      simpa [hts] using hle
    · rw [get?_of_put hfirst] at hle
      by_cases hts : t = s
      · subst hts
        have hnone := (put_eq_ok_iff.1 hfirst).1
        rw [if_pos rfl, if_neg (Option.some_ne_none value)] at hle
        simpa [hnone] using hle
      · rw [if_neg hts] at hle
        simpa [hts] using hle

/-- Options give their settings their values. -/
theorem get?_of_takeAll (hos : ∀ o ∈ os, IsOption o) (hs : s.counts = false)
    (h : takeAll g os = .ok g') : g'.get? s = (g.get? s).or (optionValue os s) := by
  rw [optionValue_valued hs]
  induction os generalizing g with
  | nil =>
    obtain rfl := Except.ok.inj h
    exact (Option.or_none).symm
  | cons o os ih =>
    obtain ⟨ho, hos⟩ := List.forall_mem_cons.1 hos
    rw [takeAll_cons] at h
    obtain ⟨g₁, hfirst, hrest⟩ := exists_of_bind_eq_ok h
    rw [ih hos hrest, List.find?_cons]
    obtain ⟨t, _ | value⟩ := o
    · have hts : t ≠ s := by
        rintro rfl
        exact absurd (ho.1 rfl) (Bool.eq_false_iff.1 hs)
      rw [get?_of_countUp hfirst, if_neg hts]
      simp [hts]
    · rw [get?_of_put hfirst]
      by_cases hts : t = s
      · subst hts
        simp [(put_eq_ok_iff.1 hfirst).1]
      · simp [hts]

/-! ### Options that are counted -/

theorem readVerbosity?_le {text : String} {n : Nat} (h : readVerbosity? text = some n) :
    n ≤ verbosityBound := by
  unfold readVerbosity? at h
  split at h
  · next m hm =>
    obtain rfl := Option.some.inj h
    exact (Text.unsignedUpTo?_eq_some_iff.1 hm).2
  · unfold levelVerbosity? at h
    split at h <;> cases h <;> decide

/-- A count is read back from its numeral. -/
theorem readVerbosity?_numeral {n : Nat} (hn : n ≤ verbosityBound) :
    readVerbosity? (Text.numeral n) = some n := by
  have hwritten : Text.Unsigned (Text.decimal n) n :=
    .bare (Text.digits?_eq_some_iff.1 (Text.digits?_decimal n))
  have hread : Text.unsignedUpTo? verbosityBound (Text.numeral n).toList = some n := by
    rw [Text.toList_numeral]
    exact Text.unsignedUpTo?_eq_some_iff.2 ⟨hwritten, hn⟩
  simp only [readVerbosity?, hread]

theorem countOf_le (g : Given) (s : Setting) : countOf g s ≤ verbosityBound := by
  rw [countOf]
  rcases h : (g.get? s).bind readVerbosity? with _ | n
  · exact Nat.zero_le _
  · obtain ⟨text, -, hn⟩ := Option.bind_eq_some_iff.1 h
    exact readVerbosity?_le hn

/-- Counting goes on while the count is admitted. -/
theorem countOf_of_countUp (h : Reading.countUp g s = .ok g') (hs : s.counts = true) :
    countOf g' s = countOf g s + 1 := by
  obtain rfl := eq_verbosity_of_counts hs
  obtain ⟨hadmits, -⟩ := countUp_eq_ok_iff.1 h
  have hle : countOf g .verbosity + 1 ≤ verbosityBound := by
    refine Nat.lt_of_le_of_ne (countOf_le g .verbosity) fun heq => ?_
    rw [heq] at hadmits
    exact absurd hadmits (by decide +kernel)
  rw [countOf, get?_of_countUp h, if_pos rfl, Option.bind_some, readVerbosity?_numeral hle]
  rfl

/-- An option that is counted gives its setting the number of times that it is given. -/
theorem get?_of_takeAll_counted (hos : ∀ o ∈ os, IsOption o) (hs : s.counts = true)
    (h : takeAll g os = .ok g') : g'.get? s = if os.count (s, none) = 0 then g.get? s
      else some (Text.numeral (countOf g s + os.count (s, none))) := by
  induction os generalizing g with
  | nil =>
    obtain rfl := Except.ok.inj h
    rfl
  | cons o os ih =>
    obtain ⟨ho, hos⟩ := List.forall_mem_cons.1 hos
    rw [takeAll_cons] at h
    obtain ⟨g₁, hfirst, hrest⟩ := exists_of_bind_eq_ok h
    rw [ih hos hrest, List.count_cons]
    obtain ⟨t, _ | value⟩ := o
    · obtain rfl : t = s :=
        (eq_verbosity_of_counts (ho.1 rfl)).trans (eq_verbosity_of_counts hs).symm
      rw [get?_of_countUp hfirst, if_pos rfl, countOf_of_countUp hfirst hs,
        if_pos (beq_self_eq_true _), if_neg (Nat.succ_ne_zero _)]
      by_cases hcount : os.count (t, none) = 0
      · rw [if_pos hcount, hcount]
      · rw [if_neg hcount, Nat.add_assoc, Nat.add_comm 1]
    · have hts : t ≠ s := by
        rintro rfl
        cases ho.2 hs
      have hget : g₁.get? s = g.get? s := by rw [get?_of_put hfirst, if_neg hts]
      simp [hts, countOf, hget]

/-! ### The command line and the environment -/

theorem get?_of_arguments {args : List String} (hos : Spells args os)
    (h : Reading.start.arguments args = .ok g) (s : Setting) : g.get? s = optionValue os s := by
  have htake := takeAll_of_spells hos h
  rcases hs : s.counts with _ | _
  · exact get?_of_takeAll hos.isOption hs htake
  · rw [get?_of_takeAll_counted hos.isOption hs htake, optionValue_counted hs]
    simp [countOf]

section Environment

variable {environment : String → Option String} {settings : List Setting}

/-- The environment is asked for a setting that is not given. -/
theorem exists_of_complete_cons (h : complete environment g (t :: settings) = .ok g') :
    ∃ g₁, complete environment g₁ settings = .ok g' ∧ (Admitted g → Admitted g₁) ∧
      ∀ s, g₁.get? s = (g.get? s).or (if t = s then environment t.variableName else none) := by
  rw [complete, Dictionary.has] at h
  rcases hget : g.get? t with _ | v
  · rw [hget] at h
    rcases hvariable : environment t.variableName with _ | value
    · rw [hvariable] at h
      exact ⟨g, h, id, fun s => by simp⟩
    · rw [hvariable] at h
      obtain ⟨g₁, hput, hrest⟩ := exists_of_bind_eq_ok h
      refine ⟨g₁, hrest, fun hg => hg.put hput, fun s => ?_⟩
      rw [get?_of_put hput]
      by_cases hts : t = s
      · subst hts
        simp [hget]
      · simp [hts]
  · rw [hget] at h
    refine ⟨g, h, id, fun s => ?_⟩
    by_cases hts : t = s
    · subst hts
      simp [hget]
    · simp [hts]

theorem Admitted.complete (h : Admitted g) (hcomplete : complete environment g settings = .ok g') :
    Admitted g' := by
  induction settings generalizing g with
  | nil => exact Except.ok.inj hcomplete ▸ h
  | cons t settings ih =>
    obtain ⟨g₁, hrest, hg₁, -⟩ := exists_of_complete_cons hcomplete
    exact ih (hg₁ h) hrest

theorem get?_of_complete (h : complete environment g settings = .ok g') (s : Setting) :
    g'.get? s = (g.get? s).or (if s ∈ settings then environment s.variableName else none) := by
  induction settings generalizing g with
  | nil =>
    obtain rfl := Except.ok.inj h
    exact (Option.or_none).symm
  | cons t settings ih =>
    obtain ⟨g₁, hrest, -, hget⟩ := exists_of_complete_cons h
    rw [ih hrest, hget, Option.or_assoc]
    by_cases hts : t = s
    · subst hts
      rcases environment t.variableName with _ | value <;> simp
    · simp [hts, Ne.symm hts]

variable {args : List String}

/-- What is read is what the arguments give, completed, and one store is among it. -/
theorem exists_of_read (h : read environment args = .ok g) :
    ∃ given, Reading.start.arguments args = .ok given ∧
      complete environment given Setting.all = .ok g ∧ checkStore g = .ok () := by
  obtain ⟨given, hgiven, hrest⟩ := exists_of_bind_eq_ok h
  obtain ⟨g', hcomplete, hrest⟩ := exists_of_bind_eq_ok hrest
  obtain ⟨⟨⟩, hcheck, hrest⟩ := exists_of_bind_eq_ok hrest
  obtain rfl := Except.ok.inj hrest
  exact ⟨given, hgiven, hcomplete, hcheck⟩

theorem mem_all_settings (s : Setting) : s ∈ Setting.all := by
  cases s <;> decide

/-- What is read is the value of the option, or else that of the variable. -/
theorem get?_of_read (hos : Spells args os) (h : read environment args = .ok g) (s : Setting) :
    g.get? s = settingValue os environment s := by
  obtain ⟨given, hgiven, hcomplete, -⟩ := exists_of_read h
  rw [get?_of_complete hcomplete, get?_of_arguments hos hgiven, if_pos (mem_all_settings s),
    settingValue]

theorem admitted_of_read (h : read environment args = .ok g) : Admitted g := by
  obtain ⟨given, hgiven, hcomplete, -⟩ := exists_of_read h
  obtain ⟨os, -, htake⟩ := arguments_eq_ok_iff.1 hgiven
  exact (admitted_empty.takeAll htake).complete hcomplete

/-- A database and the analytics service are not both given. -/
theorem countUrl_of_read (h : read environment args = .ok g) (hdsn : (g.get? .dsn).isSome = true) :
    g.get? .countUrl = none := by
  obtain ⟨given, -, -, hcheck⟩ := exists_of_read h
  rw [checkStore, Dictionary.has, hdsn, Bool.true_and] at hcheck
  rcases hcount : g.get? .countUrl with _ | url
  · rfl
  · rw [Dictionary.has, hcount] at hcheck
    cases hcheck

end Environment

end Values

end LoginGate.CommandLine
