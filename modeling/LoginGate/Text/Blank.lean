/-!
# Blank characters

The white space of Unicode (the property `White_Space`), and what depends on
it: trimming a text and telling whether a text shows anything at all.

* `trim_eq_nil_iff`: trimming leaves nothing exactly when all is blank;
* `isTrimmed_trim`: what trimming leaves has no blanks around it, and a text that has
  none is left as it is (`IsTrimmed.trim_eq`), also if blanks are put around it
  (`IsTrimmed.trim_append`).
-/

namespace LoginGate.Text

/-- Whether a character is white space, by the Unicode property `White_Space`. -/
def isBlank (c : Char) : Bool :=
  ('\t' ≤ c && c ≤ '\r') || c == ' ' || c == '\u0085' || c == '\u00a0' || c == '\u1680' ||
    ('\u2000' ≤ c && c ≤ '\u200a') || c == '\u2028' || c == '\u2029' || c == '\u202f' ||
    c == '\u205f' || c == '\u3000'

/-- The text without the blanks that it begins with. -/
def trimStart (s : List Char) : List Char := s.dropWhile isBlank

/-- The text without the blanks that it ends with. -/
def trimEnd (s : List Char) : List Char := (s.reverse.dropWhile isBlank).reverse

/-- The text without the blanks around it. -/
def trim (s : List Char) : List Char := trimEnd (trimStart s)

/-- Whether a text is empty or shows nothing but blanks. -/
def isBlankText (s : String) : Bool := s.toList.all isBlank

theorem isBlank_of_isDigit {c : Char} (h : c.isDigit) : isBlank c = false := by
  have hall : ∀ n < 58, 48 ≤ n → isBlank (Char.ofNat n) = false := by decide
  have hcode : 48 ≤ c.toNat ∧ c.toNat ≤ 57 := by
    simpa [Char.isDigit, UInt32.le_iff_toNat_le] using h
  rw [← Char.ofNat_toNat c]
  exact hall c.toNat (by omega) hcode.1

theorem dropWhile_eq_nil_iff {p : Char → Bool} {s : List Char} :
    s.dropWhile p = [] ↔ ∀ c ∈ s, p c = true := by
  induction s with
  | nil => simp
  | cons c s ih => by_cases h : p c <;> simp [h, ih]

/-- What is left after dropping starts with a character that is kept. -/
theorem not_of_dropWhile_eq_cons {p : Char → Bool} {s r : List Char} {c : Char}
    (h : s.dropWhile p = c :: r) : p c = false := by
  induction s with
  | nil => simp at h
  | cons d s ih =>
    by_cases hd : p d
    · exact ih (by simpa [List.dropWhile_cons, hd] using h)
    · simp [hd] at h
      exact h.1 ▸ by simpa using hd

theorem trim_eq_nil_iff {s : List Char} : trim s = [] ↔ ∀ c ∈ s, isBlank c = true := by
  constructor
  · intro h
    have h := List.reverse_eq_nil_iff.1 h
    rw [dropWhile_eq_nil_iff] at h
    cases hs : trimStart s with
    | nil => exact dropWhile_eq_nil_iff.1 hs
    | cons c r =>
      have hc := not_of_dropWhile_eq_cons hs
      rw [h c (by rw [hs]; simp)] at hc
      exact absurd hc (by simp)
  · intro h
    simp [trim, trimStart, trimEnd, dropWhile_eq_nil_iff.2 h]

/-- There are no blanks around the text. -/
structure IsTrimmed (s : List Char) : Prop where
  /-- The text does not begin with a blank. -/
  first {c : Char} : s.head? = some c → isBlank c = false
  /-- The text does not end with a blank. -/
  last {c : Char} : s.getLast? = some c → isBlank c = false

theorem prefix_trimEnd (s : List Char) : trimEnd s <+: s := by
  have h := List.reverse_prefix.2 (List.dropWhile_suffix (l := s.reverse) isBlank)
  rwa [List.reverse_reverse] at h

theorem mem_of_mem_trim {s : List Char} {c : Char} (h : c ∈ trim s) : c ∈ s :=
  (List.dropWhile_suffix isBlank).subset ((prefix_trimEnd _).subset h)

theorem isTrimmed_trim (s : List Char) : IsTrimmed (trim s) where
  first := by
    intro c h
    obtain ⟨r, hr⟩ := prefix_trimEnd (trimStart s)
    cases ht : trim s with
    | nil => simp [ht] at h
    | cons d t =>
      rw [ht] at h
      obtain rfl := Option.some.inj h
      rw [← trim, ht] at hr
      exact not_of_dropWhile_eq_cons hr.symm
  last := by
    intro c h
    rw [trim, trimEnd, List.getLast?_reverse] at h
    cases ht : (trimStart s).reverse.dropWhile isBlank with
    | nil => simp [ht] at h
    | cons d t =>
      rw [ht] at h
      obtain rfl := Option.some.inj h
      exact not_of_dropWhile_eq_cons ht

/-- A text without blanks around it has none at its end. -/
theorem IsTrimmed.eq_nil_of_blank {s r : List Char} (h : IsTrimmed (s ++ r))
    (hblank : ∀ c ∈ r, isBlank c = true) : r = [] := by
  refine Decidable.byContradiction fun hr => ?_
  have hlast := List.getLast?_eq_some_getLast hr
  have hc := h.last (c := r.getLast hr) (by rw [List.getLast?_append, hlast, Option.some_or])
  rw [hblank _ (List.getLast_mem hr)] at hc
  cases hc

/-- Trimming leaves a text without blanks around it as it is. -/
theorem IsTrimmed.trim_eq {s : List Char} (h : IsTrimmed s) : trim s = s := by
  have hstart : trimStart s = s := by
    cases s with
    | nil => rfl
    | cons c r => rw [trimStart, List.dropWhile_cons_of_neg (by simp [h.first rfl])]
  rw [trim, hstart, trimEnd]
  cases hr : s.reverse with
  | nil => rw [List.reverse_eq_nil_iff.1 hr]; rfl
  | cons c r =>
    have hc : isBlank c = false := h.last (by rw [List.getLast?_eq_head?_reverse, hr]; rfl)
    rw [List.dropWhile_cons_of_neg (by simp [hc]), ← hr, List.reverse_reverse]

/-- There are no blanks around a text if there is none at the beginning of its first
    part and none around the second one, which is not empty. -/
theorem IsTrimmed.append {s r : List Char} (h : IsTrimmed r) (hr : r ≠ [])
    (hs : ∀ c ∈ s.head?, isBlank c = false) : IsTrimmed (s ++ r) where
  first := by
    intro c hc
    cases s with
    | nil => exact h.first hc
    | cons d s => exact hs c hc
  last := by
    intro c hc
    rw [List.getLast?_append, List.getLast?_eq_some_getLast hr, Option.some_or] at hc
    exact h.last ((List.getLast?_eq_some_getLast hr).trans hc)

/-- A text is what trimming leaves of it, with blanks around that. -/
theorem exists_blanks_around (s : List Char) : ∃ before after,
    s = before ++ trim s ++ after ∧ (∀ c ∈ before, isBlank c = true) ∧
      ∀ c ∈ after, isBlank c = true := by
  refine ⟨s.takeWhile isBlank, ((trimStart s).reverse.takeWhile isBlank).reverse, ?_,
    List.all_eq_true.1 List.all_takeWhile,
    fun c hc => List.all_eq_true.1 List.all_takeWhile c (List.mem_reverse.1 hc)⟩
  have hend : trim s ++ ((trimStart s).reverse.takeWhile isBlank).reverse = trimStart s := by
    rw [trim, trimEnd, ← List.reverse_append, List.takeWhile_append_dropWhile, List.reverse_reverse]
  rw [List.append_assoc, hend, trimStart, List.takeWhile_append_dropWhile]

/-- Trimming takes exactly the blanks around a text that itself has none around it. -/
theorem IsTrimmed.trim_append {before s after : List Char} (h : IsTrimmed s)
    (hbefore : ∀ c ∈ before, isBlank c = true) (hafter : ∀ c ∈ after, isBlank c = true) :
    trim (before ++ s ++ after) = s := by
  cases s with
  | nil =>
    rw [trim_eq_nil_iff, List.append_nil]
    exact List.forall_mem_append.2 ⟨hbefore, hafter⟩
  | cons c r =>
    have hstart : trimStart (before ++ (c :: r) ++ after) = (c :: r) ++ after := by
      rw [trimStart, List.append_assoc, List.dropWhile_append_of_pos hbefore, List.cons_append,
        List.dropWhile_cons_of_neg (by simp [h.first rfl])]
    have hend : trimEnd ((c :: r) ++ after) = trimEnd (c :: r) := by
      rw [trimEnd, List.reverse_append,
        List.dropWhile_append_of_pos fun d hd => hafter d (List.mem_reverse.1 hd), trimEnd]
    have hkept : trim (c :: r) = c :: r := h.trim_eq
    rw [trim, trimStart, List.dropWhile_cons_of_neg (by simp [h.first rfl])] at hkept
    rw [trim, hstart, hend, hkept]

theorem isTrimmed_of_forall {s : List Char} (h : ∀ c ∈ s, isBlank c = false) : IsTrimmed s where
  first hc := h _ (List.mem_of_head? hc)
  last hc := h _ (List.mem_of_getLast? hc)

end LoginGate.Text
