import LoginGate.Proofs.Json.Reading

/-!
# Documents are read as they are written

A document whose numbers are whole and fit a word of 64 bits is what its text is
read as, as long as it has no more levels than are read (`parse_written`). Other
numbers are kept as the nearest number of 64 bits, and are left out here.

* `reads_whole`, `reads_number`: numbers;
* `reads_value`: documents of any kind, by their levels (`Fits`).
-/

namespace LoginGate.Json

open Text (symbols)

/-- The number is whole and fits a word of 64 bits. -/
inductive Number.IsWhole : Number → Prop
  | natural {n : Nat} : n < Word.size64 → IsWhole (.natural n)
  | negative {n : Nat} : 0 < n → n ≤ Word.size63 → IsWhole (.negative n)

/-- The numbers of the document are whole, and it has at most so many levels. -/
inductive Value.Fits : Nat → Value → Prop
  | null {room : Nat} : Fits room .null
  | bool {room : Nat} (b : Bool) : Fits room (.bool b)
  | number {room : Nat} {n : Number} : n.IsWhole → Fits room (.number n)
  | string {room : Nat} (s : String) : Fits room (.string s)
  | array {room : Nat} {items : List Value} : (∀ v ∈ items, Fits room v) →
    Fits (room + 1) (.array items)
  | object {room : Nat} {members : List (String × Value)} : (∀ m ∈ members, Fits room m.2) →
    Fits (room + 1) (.object members)

/-- An object of strings fits where there is room for itself. -/
theorem Value.fits_strings (room : Nat) (l : List (String × String)) :
    Fits (room + 1) (.object (l.map fun m => (m.1, .string m.2))) := by
  refine .object fun m hm => ?_
  obtain ⟨⟨key, s⟩, -, rfl⟩ := List.mem_map.1 hm
  exact .string s

/-! ### Digits -/

/-- A number that is not zero does not begin with a zero. -/
theorem exists_of_decimal {n : Nat} (h : 0 < n) :
    ∃ x ds, Text.decimal n = x :: ds ∧ x ≠ '0' := by
  -- The first digit is that of the number without its last one.
  induction n using Nat.strongRecOn with
  | ind n ih =>
    rw [Text.decimal, Nat.toDigits_eq_if (by decide)]
    split
    · next hlt =>
      have hdigit : ∀ d < 10, 0 < d → Nat.digitChar d ≠ '0' := by decide
      exact ⟨Nat.digitChar n, [], rfl, hdigit n hlt h⟩
    · next hge =>
      obtain ⟨x, ds, hds, hx⟩ := ih (n / 10) (by omega) (by omega)
      rw [Text.decimal] at hds
      exact ⟨x, ds ++ [Nat.digitChar (n % 10)], by rw [hds, List.cons_append], hx⟩

theorem le_ofDigitChars (ds : List Char) (n : Nat) : n ≤ Nat.ofDigitChars 10 ds n := by
  induction ds generalizing n with
  | nil => exact Nat.le_refl n
  | cons x ds ih =>
    rw [Nat.ofDigitChars_cons]
    have hle := ih (10 * n + (x.toNat - '0'.toNat))
    omega

namespace Reader

variable {ds rest : List Char} {n : Nat}

theorem EndsNumber.not_isDigit (h : EndsNumber rest) :
    ∀ x ∈ rest.head?, x.isDigit = false := by
  intro x hx
  have hcontinues := h x hx
  simp only [continuesNumber, Bool.or_eq_false_iff] at hcontinues
  exact hcontinues.1.1.1

/-- Digits are gathered up to their end, if the number stays within the limit. -/
theorem gatherDigits_digits {limit : Nat} (hds : ∀ x ∈ ds, x.isDigit)
    (hrest : ∀ x ∈ rest.head?, x.isDigit = false) (value taken : Nat)
    (h : Nat.ofDigitChars 10 ds value ≤ limit) :
    gatherDigits limit value taken (symbols (ds ++ rest)) =
      (Nat.ofDigitChars 10 ds value, taken + ds.length, symbols rest) := by
  induction ds generalizing value taken with
  | nil =>
    cases rest with
    | nil => rfl
    | cons x rest =>
      have hx : ¬x.isDigit = true := by simp [hrest x rfl]
      exact if_neg fun h => hx h.1
  | cons x ds ih =>
    obtain ⟨hx, hds⟩ := List.forall_mem_cons.1 hds
    rw [Nat.ofDigitChars_cons, Nat.mul_comm] at h ⊢
    -- The number with one digit more is no greater than the one with all of them.
    have hle : value * 10 + (x.toNat - '0'.toNat) ≤ limit :=
      Nat.le_trans (le_ofDigitChars ds _) h
    have hstep : gatherDigits limit value taken (symbols (x :: ds ++ rest)) =
        gatherDigits limit (value * 10 + (x.toNat - '0'.toNat)) (taken + 1)
          (symbols (ds ++ rest)) :=
      if_pos ⟨hx, hle⟩
    rw [hstep, ih hds _ _ h, List.length_cons, Nat.add_right_comm, Nat.add_assoc]

theorem reads_gather {limit : Nat} (hds : ∀ x ∈ ds, x.isDigit)
    (hrest : ∀ x ∈ rest.head?, x.isDigit = false) (h : Text.digitsValue ds ≤ limit) :
    Reads (gather limit 0) ds (Text.digitsValue ds, ds.length) rest := by
  intro line column
  have hgather := gatherDigits_digits hds hrest 0 0 h
  refine ⟨line, column + ds.length, ?_⟩
  rw [gather, hgather, Nat.zero_add]
  rfl

/-! ### Numbers -/

theorem reads_next (rest : List Char) : Reads next? [] rest.head? rest := by
  intro line column
  refine ⟨line, column, ?_⟩
  cases rest <;> rfl

theorem reads_atDigit (h : EndsNumber rest) : Reads atDigit [] false rest := by
  refine .look (reads_next rest) ?_
  have hdigit : rest.head?.any Char.isDigit = false := by
    cases hx : rest.head? with
    | none => rfl
    | some x => exact h.not_isDigit x hx
  rw [hdigit]
  exact .pure false rest

theorem reads_afterWhole (negative : Bool) (n : Nat) (h : EndsNumber rest) :
    Reads (afterWhole negative n) [] (wholeNumber negative n) rest := by
  -- Neither a point nor an exponent follows.
  refine .look (reads_next rest) (.ite_neg ?_ (.look (a := false) ?_ (.ite_neg nofun (.pure _ _))))
  · intro hpoint
    exact absurd (h '.' hpoint) (by decide)
  · refine .look (reads_next rest) ?_
    have hexponent : rest.head?.any (fun c => c == 'e' || c == 'E') = false := by
      cases hx : rest.head? with
      | none => rfl
      | some x =>
        have hcontinues := h x hx
        simp only [continuesNumber, Bool.or_eq_false_iff] at hcontinues
        simp [hcontinues]
    rw [hexponent]
    exact .pure false rest

/-- The digits of a whole number are read as the number. -/
theorem reads_whole (negative : Bool) (hn : n < Word.size64) (h : EndsNumber rest) :
    Reads (numberToken negative) (Text.decimal n) (wholeNumber negative n) rest := by
  rcases Nat.eq_zero_or_pos n with rfl | hpos
  · refine .look (reads_next _) ?_
    refine .ite_pos rfl (.after (reads_skip '0' _) ?_)
    exact .look (reads_atDigit h) (.ite_neg nofun (reads_afterWhole negative 0 h))
  · obtain ⟨x, ds, hds, hx⟩ := exists_of_decimal hpos
    have hall : ∀ c ∈ Text.decimal n, c.isDigit := fun _ => Text.isDigit_of_mem_decimal
    have hdigit : x.isDigit := hall x (hds ▸ List.mem_cons_self)
    have hle : Text.digitsValue (Text.decimal n) ≤ wordLimit := by
      rw [Text.digitsValue_decimal]
      exact Nat.le_sub_one_of_lt hn
    have hgather := reads_gather hall h.not_isDigit hle
    rw [Text.digitsValue_decimal] at hgather
    refine .look (reads_next _) ?_
    rw [hds, List.cons_append, List.head?_cons]
    refine .ite_neg hx (.ite_pos hdigit ?_)
    rw [← hds, ← List.append_nil (Text.decimal n)]
    refine .bind hgather ?_
    exact .look (reads_atDigit h) (.ite_neg nofun (reads_afterWhole negative n h))

theorem reads_number {n : Number} (hn : n.IsWhole) (h : EndsNumber rest) :
    ∃ x text, n.text = x :: text ∧ IsSolid x ∧ x ≠ ']' ∧
      Reads (scalar? x) (x :: text) (some (.number n)) rest := by
  cases hn with
  | @natural n hn =>
    obtain ⟨x, ds, hds⟩ := List.exists_cons_of_ne_nil (Text.decimal_ne_nil n)
    have hx : x.isDigit := Text.isDigit_of_mem_decimal (hds ▸ List.mem_cons_self)
    have hne {y : Char} (hy : y.isDigit = false) : x ≠ y := by
      rintro rfl
      exact absurd (hx.symm.trans hy) nofun
    refine ⟨x, ds, hds, ⟨hne rfl, ?_⟩, hne rfl, ?_⟩
    · rintro (rfl | rfl | rfl) <;> exact absurd hx (by decide)
    · refine .ite_neg (hne rfl) (.ite_neg (hne rfl) (.ite_neg (hne rfl) (.ite_neg (hne rfl)
        (.ite_neg (hne rfl) (.ite_pos hx ?_)))))
      rw [← hds]
      exact .then (reads_whole false hn h) rfl
  | @negative n hpos hn =>
    have hword : n < Word.size64 := Nat.lt_of_le_of_lt hn (by decide)
    have hwhole : wholeNumber true n = .negative n := by
      simp [wholeNumber, hpos, hn]
    refine ⟨'-', Text.decimal n, rfl, by decide, by decide, .after (reads_skip '-' _) ?_⟩
    exact .then (hwhole ▸ reads_whole true hword h) rfl

/-! ### Documents -/

theorem reads_literal (word rest : List Char) : Reads (literal word) word () rest := by
  induction word with
  | nil => exact .pure () rest
  | cons x word ih =>
    exact .look (reads_next _) (.ite_pos rfl (.after (reads_skip x _) ih))

theorem beginsItem_of_fits {room : Nat} {v : Value} (h : v.Fits room) : BeginsItem v.text := by
  cases h with
  | null => exact ⟨'n', _, rfl, by decide, by decide⟩
  | bool b =>
    cases b
    · exact ⟨'f', _, rfl, by decide, by decide⟩
    · exact ⟨'t', _, rfl, by decide, by decide⟩
  | number hn =>
    obtain ⟨x, text, htext, hsolid, hne, -⟩ := reads_number hn endsNumber_nil
    exact ⟨x, text, htext, hsolid, hne⟩
  | string s => exact ⟨'"', _, rfl, by decide, by decide⟩
  | array _ => exact ⟨'[', _, text_array _, by decide, by decide⟩
  | object _ => exact ⟨'\x7b', _, text_object _, by decide, by decide⟩

/-- Wherever a document stands, it is read as it is written. -/
theorem reads_value {room : Nat} {v : Value} (hv : v.Fits room) (rest : List Char)
    (h : EndsNumber rest) : Reads (value room) v.text v rest := by
  induction hv generalizing rest with
  | null =>
    refine reads_value_scalar (by decide) ?_ _
    exact .after (reads_skip 'n' _) (.then (reads_literal ['u', 'l', 'l'] rest) rfl)
  | bool b =>
    cases b
    · refine reads_value_scalar (by decide) ?_ _
      exact .after (reads_skip 'f' _) (.then (reads_literal ['a', 'l', 's', 'e'] rest) rfl)
    · refine reads_value_scalar (by decide) ?_ _
      exact .after (reads_skip 't' _) (.then (reads_literal ['r', 'u', 'e'] rest) rfl)
  | @number room n hn =>
    obtain ⟨x, text, htext, hsolid, -, hreads⟩ := reads_number hn h
    have hvalue : (Value.number n).text = x :: text := htext
    rw [hvalue]
    exact reads_value_scalar hsolid hreads room
  | string s => exact reads_value_string _ s rest
  | array hitems ih =>
    exact reads_value_array (fun v hv => ⟨beginsItem_of_fits (hitems v hv), ih v hv⟩) rest
  | object _ ih => exact reads_value_object ih rest

end Reader

/-- A document is what its text is read as. -/
theorem Value.parse_written {v : Value} (h : v.Fits Reader.levels) : parse v.render = .ok v := by
  have hreads : Reader.Reads (Reader.value Reader.levels) v.render.toList v [] := by
    rw [render, String.toList_ofList]
    exact Reader.reads_value h [] Reader.endsNumber_nil
  exact hreads.runChecked id .ok

end LoginGate.Json
