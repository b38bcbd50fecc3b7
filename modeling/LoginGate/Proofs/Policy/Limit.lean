import LoginGate.Policy.Verdict
import LoginGate.Proofs.Text.Numeral

/-!
# Which texts are limits

A text is a limit if it writes a positive number of at most 32 bits, with any
leading zeros and a plus sign if one likes. Any other text is refused, for one of
three reasons, which tell apart how it fails: it writes no integer, or one that
does not even fit a signed word of 64 bits; it writes zero or a negative integer;
or it writes a positive integer that is too large for a limit. The reasons do not
overlap (`About.eq_of_reason`), so that each of them says exactly what the text is
like.

The integers of a signed word fall into three ranges, and `parse` is given on each
of them (`parse_of_nonpos`, `parse_of_fits`, `parse_of_large`).
-/

namespace LoginGate

namespace LimitError

/-- The errors that there may be about a text. -/
inductive About (text : String) : LimitError → Prop
  | notInteger : About text (.notInteger text)
  | notPositive (k : Int) : About text (.notPositive k)
  | tooLarge (k : Int) : About text (.tooLarge k)

variable {text : String}

/-- The reason that is given tells which error there is about a text. -/
theorem About.eq_of_reason {cause other : LimitError} (hcause : About text cause)
    (hother : About text other) (h : cause.reason = other.reason) : cause = other := by
  have hshown {k l : Int} {s : String}
      (h : s ++ String.ofList (Text.decimalInt k) = s ++ String.ofList (Text.decimalInt l)) :
      k = l :=
    Text.decimalInt_inj (String.ofList_injective ((String.append_right_inj s).1 h))
  cases hcause <;> cases hother
  case notInteger.notInteger => rfl
  case notPositive.notPositive => rw [hshown h]
  case tooLarge.tooLarge => rw [hshown h]
  -- Two different errors differ in the words before the integer or the text.
  all_goals simp [reason, limitAttribute, ← String.toList_inj] at h

/-- The whole message about a text: the words before what is shown of it stand
    together. -/
theorem message_of_reason (cause : LimitError) {words shown : String}
    (h : cause.reason = limitAttribute ++ words ++ shown) :
    (PolicyError.invalidLimit cause).message =
      "Invalid session limit configuration: sessionLimit" ++ words ++ shown := by
  unfold PolicyError.message
  dsimp only
  rw [h, ← String.append_assoc, ← String.append_assoc]
  exact congrArg (· ++ words ++ shown) (by decide)

end LimitError

namespace SessionLimit

open Text

/-- What is said about a text that is no limit. -/
def refusal? (text : String) : Option String :=
  match parse (some text) with
  | .ok _ => none
  | .error cause => some (PolicyError.invalidLimit cause).message

variable {text : String} {limit : SessionLimit} {k : Int}

/-! ### The ranges of an integer -/

theorem value_lt (limit : SessionLimit) : limit.value < 2 ^ 32 := limit.lt_word

theorem parse_of_none (h : signed64? text.toList = none) :
    parse (some text) = .error (.notInteger text) := by
  rw [parse.eq_2, h]

theorem parse_of_nonpos (h : signed64? text.toList = some k) (hk : k ≤ 0) :
    parse (some text) = .error (.notPositive k) := by
  rw [parse.eq_2, h]
  exact if_pos hk

theorem parse_of_fits (h : signed64? text.toList = some limit.value) :
    parse (some text) = .ok limit := by
  have hpos := limit.pos
  rw [parse.eq_2, h]
  exact (if_neg (by omega)).trans limit.ofNat_value

theorem parse_of_large (h : signed64? text.toList = some k) (hk : 2 ^ 32 ≤ k) :
    parse (some text) = .error (.tooLarge k) := by
  have hlarge : ¬k.toNat < Word.size32 := Nat.not_lt.2 (show 2 ^ 32 ≤ k.toNat by omega)
  rw [parse.eq_2, h]
  refine (if_neg (by omega)).trans ?_
  rw [ofNat, dif_neg hlarge, Int.toNat_of_nonneg (by omega)]

/-- An integer is not positive, or the value of a limit, or too large for one. -/
theorem range_cases (k : Int) : k ≤ 0 ∨ (∃ limit : SessionLimit, k = limit.value) ∨ 2 ^ 32 ≤ k := by
  by_cases hpos : k ≤ 0
  · exact .inl hpos
  by_cases hlarge : 2 ^ 32 ≤ k
  · exact .inr (.inr hlarge)
  have hlt : k.toNat < 2 ^ 32 := by omega
  exact .inr (.inl ⟨⟨k.toNat, by omega, hlt⟩, (Int.toNat_of_nonneg (by omega)).symm⟩)

/-! ### What a text is taken for -/

theorem exists_of_signed64? (h : signed64? text.toList = some k) :
    (∃ limit, k = limit.value ∧ parse (some text) = .ok limit) ∨
    (k ≤ 0 ∧ parse (some text) = .error (.notPositive k)) ∨
    (2 ^ 32 ≤ k ∧ parse (some text) = .error (.tooLarge k)) := by
  obtain hk | ⟨limit, rfl⟩ | hk := range_cases k
  · exact .inr (.inl ⟨hk, parse_of_nonpos h hk⟩)
  · exact .inl ⟨limit, rfl, parse_of_fits h⟩
  · exact .inr (.inr ⟨hk, parse_of_large h hk⟩)

/-- A text is taken for the limit whose value it writes without a minus sign. -/
theorem parse_eq_ok_iff : parse (some text) = .ok limit ↔ Unsigned text.toList limit.value := by
  rw [← signed_natCast_iff limit.pos]
  constructor
  · intro hok
    cases h : signed64? text.toList with
    | none => rw [parse_of_none h] at hok; cases hok
    | some k =>
      obtain ⟨other, rfl, hother⟩ | ⟨_, herror⟩ | ⟨_, herror⟩ := exists_of_signed64? h
      · obtain rfl := Except.ok.inj (hother.symm.trans hok)
        exact (signed64?_eq_some_iff.1 h).1
      · rw [herror] at hok; cases hok
      · rw [herror] at hok; cases hok
  · intro hsigned
    have hlt := limit.value_lt
    exact parse_of_fits (signed64?_eq_some_iff.2 ⟨hsigned, by omega, by omega⟩)

/-- Why a text is no limit depends on the range of the integer that it writes. -/
theorem parse_eq_error_iff {cause : LimitError} : parse (some text) = .error cause ↔
    (cause = .notInteger text ∧ signed64? text.toList = none) ∨
    (∃ k ≤ 0, cause = .notPositive k ∧ signed64? text.toList = some k) ∨
    (∃ k ≥ 2 ^ 32, cause = .tooLarge k ∧ signed64? text.toList = some k) := by
  constructor
  · intro herror
    cases h : signed64? text.toList with
    | none => exact .inl ⟨Except.error.inj (herror.symm.trans (parse_of_none h)), rfl⟩
    | some k =>
      obtain ⟨limit, _, hok⟩ | ⟨hk, hpos⟩ | ⟨hk, hlarge⟩ := exists_of_signed64? h
      · rw [hok] at herror; cases herror
      · exact .inr (.inl ⟨k, hk, Except.error.inj (herror.symm.trans hpos), rfl⟩)
      · exact .inr (.inr ⟨k, hk, Except.error.inj (herror.symm.trans hlarge), rfl⟩)
  · rintro (⟨rfl, h⟩ | ⟨k, hk, rfl, h⟩ | ⟨k, hk, rfl, h⟩)
    · exact parse_of_none h
    · exact parse_of_nonpos h hk
    · exact parse_of_large h hk

theorem about_of_parse {cause : LimitError} (h : parse (some text) = .error cause) :
    cause.About text := by
  obtain ⟨rfl, _⟩ | ⟨k, _, rfl, _⟩ | ⟨k, _, rfl, _⟩ := parse_eq_error_iff.1 h
  · exact .notInteger
  · exact .notPositive k
  · exact .tooLarge k

theorem parse_eq_notInteger_iff :
    parse (some text) = .error (.notInteger text) ↔ signed64? text.toList = none := by
  simp [parse_eq_error_iff]

theorem parse_eq_notPositive_iff : parse (some text) = .error (.notPositive k) ↔
    Signed text.toList k ∧ -2 ^ 63 ≤ k ∧ k ≤ 0 := by
  rw [parse_eq_error_iff]
  constructor
  · rintro (⟨⟨⟩, _⟩ | ⟨_, hk, ⟨⟩, h⟩ | ⟨_, _, ⟨⟩, _⟩)
    obtain ⟨hsigned, hlow, _⟩ := signed64?_eq_some_iff.1 h
    exact ⟨hsigned, hlow, hk⟩
  · rintro ⟨hsigned, hlow, hk⟩
    exact .inr (.inl ⟨k, hk, rfl, signed64?_eq_some_iff.2 ⟨hsigned, hlow, by omega⟩⟩)

theorem parse_eq_tooLarge_iff : parse (some text) = .error (.tooLarge k) ↔
    Signed text.toList k ∧ 2 ^ 32 ≤ k ∧ k ≤ 2 ^ 63 - 1 := by
  rw [parse_eq_error_iff]
  constructor
  · rintro (⟨⟨⟩, _⟩ | ⟨_, _, ⟨⟩, _⟩ | ⟨_, hk, ⟨⟩, h⟩)
    obtain ⟨hsigned, _, hhigh⟩ := signed64?_eq_some_iff.1 h
    exact ⟨hsigned, hk, by omega⟩
  · rintro ⟨hsigned, hk, hhigh⟩
    exact .inr (.inr ⟨k, hk, rfl, signed64?_eq_some_iff.2 ⟨hsigned, by omega, by omega⟩⟩)

theorem signed64?_eq_none_iff : signed64? text.toList = none ↔
    (¬∃ k, Signed text.toList k) ∨ ∃ k, Signed text.toList k ∧ (k < -2 ^ 63 ∨ 2 ^ 63 ≤ k) := by
  rw [Option.eq_none_iff_forall_ne_some]
  simp only [ne_eq, signed64?_eq_some_iff]
  constructor
  · intro h
    refine or_iff_not_imp_left.2 fun hsome => ?_
    obtain ⟨k, hk⟩ := not_not.1 hsome
    refine ⟨k, hk, ?_⟩
    by_contra hrange
    exact h k ⟨hk, by omega, by omega⟩
  · rintro (hnone | ⟨l, hl, hrange⟩) k ⟨hk, hlow, hhigh⟩
    · exact hnone ⟨k, hk⟩
    · obtain rfl := hk.unique hl
      omega

/-- What is said about a text tells the error. -/
theorem refusal?_eq_message_iff {cause : LimitError} (h : cause.About text) :
    refusal? text = some (PolicyError.invalidLimit cause).message ↔
      parse (some text) = .error cause := by
  rw [refusal?]
  split
  · next hok => simp [hok]
  · next other hother =>
    rw [hother, Option.some.injEq, Except.error.injEq]
    refine ⟨fun hmessage => ?_, fun heq => heq ▸ rfl⟩
    exact (about_of_parse hother).eq_of_reason h ((String.append_right_inj _).1 hmessage)

/-- The texts that are limits, and those that are refused for each of the reasons;
    a limit is read back from its text and from the attributes that carry it, and
    is written into attributes as that text. -/
theorem parse_follows_grammar :
    (∀ text : String,
      (∀ n, (∃ limit, parse (some text) = .ok limit ∧ limit.value = n) ↔
        Unsigned text.toList n ∧ 1 ≤ n ∧ n ≤ 2 ^ 32 - 1) ∧
      (refusal? text = some ("Invalid session limit configuration: sessionLimit" ++
          " is not an integer: " ++ quoted text) ↔
        (¬∃ k, Signed text.toList k) ∨
          ∃ k, Signed text.toList k ∧ (k < -2 ^ 63 ∨ 2 ^ 63 ≤ k)) ∧
      (∀ k, refusal? text = some ("Invalid session limit configuration: sessionLimit" ++
          " must be positive, got " ++ String.ofList (decimalInt k)) ↔
        Signed text.toList k ∧ -2 ^ 63 ≤ k ∧ k ≤ 0) ∧
      ∀ k, refusal? text = some ("Invalid session limit configuration: sessionLimit" ++
          " is too large: " ++ String.ofList (decimalInt k)) ↔
        Signed text.toList k ∧ 2 ^ 32 ≤ k ∧ k ≤ 2 ^ 63 - 1) ∧
    ∀ limit : SessionLimit,
      parse (some limit.text) = .ok limit ∧
      limit.attributes.entries = [(limitAttribute, limit.text)] ∧
      parse (limit.attributes.get? limitAttribute) = .ok limit ∧
      ∀ attributes key, (limit.applyTo attributes).get? key =
        if limitAttribute = key then some limit.text else attributes.get? key := by
  refine ⟨fun text => ⟨fun n => ?limit, ?notInteger, fun k => ?notPositive, fun k => ?tooLarge⟩,
    fun limit => ⟨limit.parse_text, rfl, ?carried, fun attributes key => ?written⟩⟩
  case limit =>
    constructor
    · rintro ⟨limit, hlimit, rfl⟩
      have hlt := limit.value_lt
      exact ⟨parse_eq_ok_iff.1 hlimit, limit.pos, by omega⟩
    · rintro ⟨hn, hpos, hle⟩
      have hlt : n < 2 ^ 32 := by omega
      exact ⟨⟨n, hpos, hlt⟩, parse_eq_ok_iff.2 hn, rfl⟩
  case notInteger =>
    rw [← LimitError.message_of_reason (.notInteger text) rfl,
      refusal?_eq_message_iff .notInteger, parse_eq_notInteger_iff, signed64?_eq_none_iff]
  case notPositive =>
    rw [← LimitError.message_of_reason (.notPositive k) rfl,
      refusal?_eq_message_iff (.notPositive k), parse_eq_notPositive_iff]
  case tooLarge =>
    rw [← LimitError.message_of_reason (.tooLarge k) rfl,
      refusal?_eq_message_iff (.tooLarge k), parse_eq_tooLarge_iff]
  case carried =>
    rw [get?_attributes, parse_text]
  case written =>
    exact attributes.get?_insert _ _ _

example : refusal? "-0" =
    some "Invalid session limit configuration: sessionLimit must be positive, got 0" := by
  decide

end SessionLimit

end LoginGate
