import LoginGate.Text.Blank
import LoginGate.Text.Numeral
import Mathlib.Algebra.Ring.Int.Defs
import Mathlib.Algebra.Ring.Nat
import Mathlib.Data.List.Induction

/-!
# What numerals write

The grammar of numerals, as relations between a run of characters and the number
that it writes: `Digits` for one or more ASCII digits, and `Unsigned` and
`Signed` for those with a sign that may stand in front. The readers of numerals
decide these relations: they read a number from exactly the runs that write it
(`digits?_eq_some_iff`, `unsigned?_eq_some_iff`, `signed?_eq_some_iff`), and a
run writes no second one. Where blanks are trimmed first, a numeral may have any
around it (`unsigned_trim_iff`).

A relation counts the digits from the last one on, so that leading zeros are
those that its innermost part begins with, and the number of digits is not
bounded.
-/

namespace LoginGate.Text

/-- The number that a digit stands for. -/
def digitValue (c : Char) : Nat := c.toNat - '0'.toNat

/-- The characters are ASCII digits, at least one, that write the number. -/
inductive Digits : List Char → Nat → Prop
  | single {c : Char} (h : c.isDigit) : Digits [c] (digitValue c)
  | snoc {ds : List Char} {n : Nat} {c : Char} (hds : Digits ds n) (h : c.isDigit) :
    Digits (ds ++ [c]) (10 * n + digitValue c)

/-- The characters write the number, with or without a plus sign. -/
inductive Unsigned : List Char → Nat → Prop
  | bare {ds : List Char} {n : Nat} (h : Digits ds n) : Unsigned ds n
  | plus {ds : List Char} {n : Nat} (h : Digits ds n) : Unsigned ('+' :: ds) n

/-- The characters write the integer, with or without a sign. -/
inductive Signed : List Char → Int → Prop
  | unsigned {s : List Char} {n : Nat} (h : Unsigned s n) : Signed s n
  | minus {ds : List Char} {n : Nat} (h : Digits ds n) : Signed ('-' :: ds) (-n)

variable {ds s : List Char} {n : Nat} {k : Int}

/-! ### Digits -/

/-- The reader of digits wants at least one, and nothing else. -/
theorem digits?_eq_some_iff_all :
    digits? ds = some n ↔ ds ≠ [] ∧ (∀ c ∈ ds, c.isDigit) ∧ digitsValue ds = n := by
  rw [digits?, Option.ite_none_right_eq_some, Bool.and_eq_true, Bool.not_eq_true',
    List.isEmpty_eq_false_iff, List.all_eq_true, Option.some.injEq, and_assoc]

theorem digitsValue_append_singleton (ds : List Char) (c : Char) :
    digitsValue (ds ++ [c]) = 10 * digitsValue ds + digitValue c := by
  rw [digitsValue, Nat.ofDigitChars_append, Nat.ofDigitChars_cons, Nat.ofDigitChars_nil]
  rfl

theorem Digits.all (h : Digits ds n) : ∀ c ∈ ds, c.isDigit := by
  induction h with
  | single hc => exact List.forall_mem_singleton.2 hc
  | snoc _ hc ih =>
    exact List.forall_mem_append.2 ⟨ih, List.forall_mem_singleton.2 hc⟩

theorem Digits.value (h : Digits ds n) : digitsValue ds = n := by
  induction h with
  | single hc => exact (digitsValue_append_singleton [] _).trans (Nat.zero_add _)
  | snoc _ _ ih => rw [digitsValue_append_singleton, ih]

theorem Digits.ne_nil (h : Digits ds n) : ds ≠ [] := by
  cases h with
  | single => exact List.cons_ne_nil _ _
  | snoc => exact List.append_ne_nil_of_right_ne_nil _ (List.cons_ne_nil _ _)

/-- Digits write what they are worth, by what they are worth without the last
    one. -/
theorem digits_digitsValue (hne : ds ≠ []) (h : ∀ c ∈ ds, c.isDigit) :
    Digits ds (digitsValue ds) := by
  induction ds using List.reverseRecOn with
  | nil => exact absurd rfl hne
  | append_singleton ds c ih =>
    obtain ⟨hds, hc⟩ := List.forall_mem_append.1 h
    have hc : c.isDigit := hc c List.mem_cons_self
    by_cases hnil : ds = []
    · subst hnil
      exact Digits.value (.single hc) ▸ .single hc
    · rw [digitsValue_append_singleton]
      exact .snoc (ih hnil hds) hc

/-- The reader of digits accepts those that write a number, and reads that
    number. -/
theorem digits?_eq_some_iff : digits? ds = some n ↔ Digits ds n := by
  rw [digits?_eq_some_iff_all]
  constructor
  · rintro ⟨hne, hall, rfl⟩
    exact digits_digitsValue hne hall
  · exact fun h => ⟨h.ne_nil, h.all, h.value⟩

/-! ### Signs -/

/-- Digits do not begin with a sign. -/
theorem Digits.head_ne (h : Digits (c :: ds) n) : c ≠ '+' ∧ c ≠ '-' := by
  have hc : c.isDigit := h.all c List.mem_cons_self
  constructor <;> rintro rfl <;> exact absurd hc (by decide)

theorem unsigned?_eq_some_iff : unsigned? s = some n ↔ Unsigned s n := by
  rw [unsigned?.eq_def]
  split
  · rw [digits?_eq_some_iff]
    refine ⟨.plus, fun h => ?_⟩
    cases h with
    | bare h => exact absurd rfl h.head_ne.1
    | plus h => exact h
  · next hplus =>
    rw [digits?_eq_some_iff]
    refine ⟨.bare, fun h => ?_⟩
    cases h with
    | bare h => exact h
    | plus => exact absurd rfl (hplus _)

theorem signed?_eq_some_iff : signed? s = some k ↔ Signed s k := by
  rw [signed?.eq_def]
  split
  · simp only [Option.map_eq_some_iff, digits?_eq_some_iff]
    constructor
    · rintro ⟨n, h, rfl⟩
      exact .unsigned (.plus h)
    · rintro (⟨h | h⟩ | h)
      · exact absurd rfl h.head_ne.1
      · exact ⟨_, h, rfl⟩
  · simp only [Option.map_eq_some_iff, digits?_eq_some_iff]
    constructor
    · rintro ⟨n, h, rfl⟩
      exact .minus h
    · rintro (⟨h | h⟩ | h)
      · exact absurd rfl h.head_ne.2
      · exact ⟨_, h, rfl⟩
  · next hplus hminus =>
    simp only [Option.map_eq_some_iff, digits?_eq_some_iff]
    constructor
    · rintro ⟨n, h, rfl⟩
      exact .unsigned (.bare h)
    · rintro (⟨h | h⟩ | h)
      · exact ⟨_, h, rfl⟩
      · exact absurd rfl (hplus _)
      · exact absurd rfl (hminus _)

/-- A run of characters writes one integer at most. -/
theorem Signed.unique {l : Int} (hk : Signed s k) (hl : Signed s l) : k = l :=
  Option.some.inj ((signed?_eq_some_iff.2 hk).symm.trans (signed?_eq_some_iff.2 hl))

/-- A positive integer is written without a minus sign. -/
theorem signed_natCast_iff (hn : 0 < n) : Signed s n ↔ Unsigned s n := by
  refine ⟨fun h => ?_, .unsigned⟩
  generalize hk : (n : Int) = k at h
  cases h with
  | unsigned h => rwa [Int.natCast_inj.1 hk]
  | minus h => omega

theorem unsignedUpTo?_eq_some_iff {bound : Nat} :
    unsignedUpTo? bound s = some n ↔ Unsigned s n ∧ n ≤ bound := by
  rw [unsignedUpTo?, Option.filter_eq_some_iff, unsigned?_eq_some_iff, decide_eq_true_eq]

theorem signed64?_eq_some_iff :
    signed64? s = some k ↔ Signed s k ∧ -2 ^ 63 ≤ k ∧ k < 2 ^ 63 := by
  rw [signed64?, Option.filter_eq_some_iff, signed?_eq_some_iff, Bool.and_eq_true,
    decide_eq_true_eq, decide_eq_true_eq]
  exact Iff.rfl

/-! ### Blanks around numerals -/

theorem Unsigned.isTrimmed (h : Unsigned ds n) : IsTrimmed ds := by
  refine isTrimmed_of_forall ?_
  cases h with
  | bare h => exact fun c hc => isBlank_of_isDigit (h.all c hc)
  | plus h => exact List.forall_mem_cons.2 ⟨rfl, fun c hc => isBlank_of_isDigit (h.all c hc)⟩

/-- What trimming leaves writes a number if the text does, with blanks around it. -/
theorem unsigned_trim_iff : Unsigned (trim s) n ↔ ∃ before ds after, s = before ++ ds ++ after ∧
    (∀ c ∈ before, isBlank c = true) ∧ (∀ c ∈ after, isBlank c = true) ∧ Unsigned ds n := by
  constructor
  · intro h
    obtain ⟨before, after, hs, hbefore, hafter⟩ := exists_blanks_around s
    exact ⟨before, trim s, after, hs, hbefore, hafter, h⟩
  · rintro ⟨before, ds, after, rfl, hbefore, hafter, h⟩
    rwa [h.isTrimmed.trim_append hbefore hafter]

/-! ### Writing -/

/-- The digits of an integer write it. -/
theorem signed_decimalInt (k : Int) : Signed (decimalInt k) k := by
  cases k with
  | ofNat n => exact signed?_eq_some_iff.1 (signed?_decimal n)
  | negSucc n => exact .minus (digits?_eq_some_iff.1 (digits?_decimal (n + 1)))

/-- Different integers are written differently. -/
theorem decimalInt_inj {l : Int} (h : decimalInt k = decimalInt l) : k = l :=
  (signed_decimalInt k).unique (h ▸ signed_decimalInt l)

end LoginGate.Text
