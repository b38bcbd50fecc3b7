import LoginGate.Proofs.Text.Utf8
import LoginGate.Text.Utf16

/-!
# Reading units on

Bytes of units are read on, whatever they are, but as for single bytes a character
is read from its own units (`readUnits_units`) and from no others
(`exists_of_readUnits`). So the symbols of bytes are those of a text exactly if they
are the bytes of the text in UTF-16 (`utf16Symbols_eq_iff`).
-/

namespace LoginGate.Text

variable (order : ByteOrder) {a b : UInt8} {rest bytes : List UInt8} {n : Nat}

/-! ### Bytes of units -/

theorem bytes_unit (a b : UInt8) : order.bytes (order.unit a b) = [a, b] := by
  have ha := a.toNat_lt
  have hb := b.toNat_lt
  cases order with
  | littleEndian =>
    rw [ByteOrder.unit, ByteOrder.bytes, ofNat_eq (b := a) (by omega), ofNat_eq (b := b) (by omega)]
  | bigEndian =>
    rw [ByteOrder.unit, ByteOrder.bytes, ofNat_eq (b := a) (by omega), ofNat_eq (b := b) (by omega)]

theorem exists_bytes_eq (h : n < 0x10000) :
    ∃ a b, order.bytes n = [a, b] ∧ order.unit a b = n := by
  cases order with
  | littleEndian =>
    refine ⟨_, _, rfl, ?_⟩
    rw [ByteOrder.unit, toNat_ofNat_of_lt (by omega), toNat_ofNat_of_lt (by omega)]
    omega
  | bigEndian =>
    refine ⟨_, _, rfl, ?_⟩
    rw [ByteOrder.unit, toNat_ofNat_of_lt (by omega), toNat_ofNat_of_lt (by omega)]
    omega

theorem unit_lt (a b : UInt8) : order.unit a b < 0x10000 := by
  have ha := a.toNat_lt
  have hb := b.toNat_lt
  cases order with
  | littleEndian => rw [ByteOrder.unit]; omega
  | bigEndian => rw [ByteOrder.unit]; omega

/-! ### Characters and their units -/

section Pairs

variable {high low : Nat}

theorem isHighSurrogate_iff : isHighSurrogate n = true ↔ 0xd800 ≤ n ∧ n ≤ 0xdbff := by
  simp [isHighSurrogate]

theorem isLowSurrogate_iff : isLowSurrogate n = true ↔ 0xdc00 ≤ n ∧ n ≤ 0xdfff := by
  simp [isLowSurrogate]

theorem units_surrogatePair (hhigh : isHighSurrogate high = true) (hlow : isLowSurrogate low = true) :
    units (surrogatePair high low) = [high, low] := by
  rw [isHighSurrogate_iff] at hhigh
  rw [isLowSurrogate_iff] at hlow
  have hval : (surrogatePair high low).toNat = 0x10000 + (high - 0xd800) * 1024 + (low - 0xdc00) :=
    val_ofNat (.inr (by omega))
  rw [units, hval, if_neg (by omega)]
  simp only [List.cons.injEq, and_true]
  omega

theorem units_ofNat (hhigh : ¬isHighSurrogate n = true) (hlow : ¬isLowSurrogate n = true)
    (hn : n < 0x10000) : units (Char.ofNat n) = [n] := by
  rw [isHighSurrogate_iff] at hhigh
  rw [isLowSurrogate_iff] at hlow
  have hval : (Char.ofNat n).toNat = n := val_ofNat (by rw [Nat.isValidChar]; omega)
  rw [units, hval, if_pos hn]

end Pairs

/-! ### Reading on -/

/-- A unit that is no surrogate is a character. -/
theorem readUnits_plain (hhigh : ¬isHighSurrogate (order.unit a b) = true)
    (hlow : ¬isLowSurrogate (order.unit a b) = true) :
    readUnits order none (a :: b :: rest) =
      .char (Char.ofNat (order.unit a b)) :: readUnits order none rest := by
  rw [readUnits]
  simp only [if_neg hhigh, if_neg hlow]

theorem readUnits_high (h : isHighSurrogate (order.unit a b) = true) :
    readUnits order none (a :: b :: rest) = readUnits order (some (order.unit a b)) rest := by
  rw [readUnits]
  simp only [if_pos h]

theorem readUnits_low {high : Nat} (h : isLowSurrogate (order.unit a b) = true) :
    readUnits order (some high) (a :: b :: rest) =
      .char (surrogatePair high (order.unit a b)) :: readUnits order none rest := by
  rw [readUnits]
  simp only [if_pos h]

/-- A character is read again from its units. -/
theorem readUnits_units (c : Char) (rest : List UInt8) :
    readUnits order none ((units c).flatMap order.bytes ++ rest) =
      .char c :: readUnits order none rest := by
  have hvalid : c.toNat < 0xd800 ∨ (0xdfff < c.toNat ∧ c.toNat < 0x110000) := c.valid
  -- The number of a character is that of no surrogate, and its pair holds the number.
  rw [units]
  split
  · next hlt =>
    obtain ⟨a, b, hbytes, hunit⟩ := exists_bytes_eq order hlt
    have hhigh : ¬isHighSurrogate (order.unit a b) = true := by
      rw [hunit, isHighSurrogate_iff]
      omega
    have hlow : ¬isLowSurrogate (order.unit a b) = true := by
      rw [hunit, isLowSurrogate_iff]
      omega
    rw [List.flatMap_singleton, hbytes, List.cons_append, List.singleton_append,
      readUnits_plain order hhigh hlow, hunit, Char.ofNat_toNat]
  · obtain ⟨a, b, hfirst, hhigh⟩ :=
      exists_bytes_eq order (n := 0xd800 + (c.toNat - 0x10000) / 1024) (by omega)
    obtain ⟨a', b', hsecond, hlow⟩ :=
      exists_bytes_eq order (n := 0xdc00 + (c.toNat - 0x10000) % 1024) (by omega)
    have hcode : 0x10000 + (order.unit a b - 0xd800) * 1024 + (order.unit a' b' - 0xdc00) =
        c.toNat := by omega
    have hpair : surrogatePair (order.unit a b) (order.unit a' b') = c := by
      rw [surrogatePair, hcode, Char.ofNat_toNat]
    rw [List.flatMap_cons, List.flatMap_singleton, hfirst, hsecond]
    simp only [List.cons_append, List.nil_append]
    rw [readUnits_high order (by rw [hhigh, isHighSurrogate_iff]; omega),
      readUnits_low order (by rw [hlow, isLowSurrogate_iff]; omega), hpair]

variable {x : Char} {l : List Symbol}

/-- A character is read only from its units. -/
theorem exists_of_readUnits (h : readUnits order none bytes = .char x :: l) :
    ∃ rest, bytes = (units x).flatMap order.bytes ++ rest ∧ readUnits order none rest = l := by
  match bytes with
  | [] | [_] => cases h
  | a :: b :: rest =>
    by_cases hhigh : isHighSurrogate (order.unit a b) = true
    -- Only a low surrogate after it makes a character of a high one.
    · rw [readUnits_high order hhigh] at h
      match rest with
      | [] | [_] => cases h
      | a' :: b' :: rest =>
        by_cases hlow : isLowSurrogate (order.unit a' b') = true
        · rw [readUnits_low order hlow] at h
          obtain ⟨hx, rfl⟩ := List.cons.inj h
          obtain rfl := Symbol.char.inj hx
          refine ⟨rest, ?_, rfl⟩
          rw [units_surrogatePair hhigh hlow, List.flatMap_cons, List.flatMap_singleton,
            bytes_unit, bytes_unit]
          rfl
        · rw [readUnits] at h
          simp only [if_neg hlow] at h
          cases h
    · by_cases hlow : isLowSurrogate (order.unit a b) = true
      · rw [readUnits] at h
        simp only [if_neg hhigh, if_pos hlow] at h
        cases h
      · rw [readUnits_plain order hhigh hlow] at h
        cases h
        refine ⟨rest, ?_, rfl⟩
        rw [units_ofNat hhigh hlow (unit_lt order a b), List.flatMap_singleton, bytes_unit]
        rfl

theorem readUnits_some_ne_nil (high : Nat) (bytes : List UInt8) :
    readUnits order (some high) bytes ≠ [] := by
  match bytes with
  | [] | [_] => nofun
  | a :: b :: rest =>
    rw [readUnits.eq_def]
    dsimp only
    split <;> exact List.cons_ne_nil _ _

/-- Bytes are read as something. -/
theorem eq_nil_of_readUnits (h : readUnits order none bytes = []) : bytes = [] := by
  match bytes with
  | [] => rfl
  | [_] => cases h
  | a :: b :: rest =>
    rw [readUnits.eq_def] at h
    dsimp only at h
    split at h
    · exact absurd h (readUnits_some_ne_nil order _ rest)
    · split at h <;> cases h

/-- The symbols of bytes are those of a text exactly if the bytes are those of the
    text. -/
theorem utf16Symbols_eq_iff {bytes : List UInt8} {s : String} :
    utf16Symbols order bytes = symbols s.toList ↔ bytes = utf16 order s :=
  eq_symbols_iff ⟨eq_nil_of_readUnits order, by rintro rfl; rfl⟩ (readUnits_units order)
    (exists_of_readUnits order)

end LoginGate.Text
