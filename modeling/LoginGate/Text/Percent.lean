import LoginGate.Text.Utf8

/-!
# Percent encoding

A byte may be written as `%` and two hexadecimal digits. Decoding reads such
groups as bytes and leaves everything else alone, also a `%` that is not
followed by two digits. Encoding writes a byte of a class in that way and keeps
the others.

* `percentDecoded?_percentEncode`: decoding undoes encoding, as long as percent
  signs are encoded;
* `not_mem_percentEncode`: what is encoded does not show.
-/

namespace LoginGate.Text

/-- The value of a byte as a hexadecimal digit. -/
def hexByte? (b : UInt8) : Option UInt8 :=
  if 0x30 ≤ b ∧ b ≤ 0x39 then some (b - 0x30)
  else if 0x41 ≤ b ∧ b ≤ 0x46 then some (b - 0x37)
  else if 0x61 ≤ b ∧ b ≤ 0x66 then some (b - 0x57)
  else none

/-- The bytes that percent-encoded bytes stand for. -/
def percentDecode : List UInt8 → List UInt8
  | [] => []
  | [a] => [a]
  | [a, b] => [a, b]
  | a :: b :: c :: rest =>
    if a = 0x25 then
      match hexByte? b, hexByte? c with
      | some high, some low => (high * 16 + low) :: percentDecode rest
      | _, _ => a :: percentDecode (b :: c :: rest)
    else a :: percentDecode (b :: c :: rest)

/-- The text that a percent-encoded text stands for, if its bytes are those of
    one. -/
def percentDecoded? (s : String) : Option String := ofUtf8? (percentDecode (utf8 s))

/-- A number below 16 as an upper-case hexadecimal digit. -/
def upperHexDigit (n : Nat) : Char := Char.ofNat (if n < 10 then 48 + n else 55 + n)

/-- The characters that write a byte. -/
def percentEncodeByte (b : UInt8) : List Char :=
  ['%', upperHexDigit (b.toNat / 16), upperHexDigit (b.toNat % 16)]

/-- The text with the characters of a class percent-encoded. -/
def percentEncode (encoded : Char → Bool) (s : List Char) : List Char :=
  s.flatMap fun c => if encoded c then (String.utf8EncodeChar c).flatMap percentEncodeByte else [c]

/-! ### There and back -/

theorem percentDecode_cons {a : UInt8} (h : a ≠ 0x25) (rest : List UInt8) :
    percentDecode (a :: rest) = a :: percentDecode rest := by
  rcases rest with _ | ⟨b, _ | ⟨c, rest⟩⟩
  · rfl
  · rfl
  · exact if_neg h

theorem percentDecode_append {bytes : List UInt8} (h : 0x25 ∉ bytes) (rest : List UInt8) :
    percentDecode (bytes ++ rest) = bytes ++ percentDecode rest := by
  induction bytes with
  | nil => rfl
  | cons a bytes ih =>
    rw [List.mem_cons, not_or] at h
    rw [List.cons_append, percentDecode_cons (Ne.symm h.1), ih h.2, List.cons_append]

/-- No other character has the byte of a percent sign. -/
theorem percent_not_mem_utf8EncodeChar {c : Char} (h : c ≠ '%') :
    0x25 ∉ String.utf8EncodeChar c := by
  have hval : c.val.toNat ≠ 37 := fun hv => h (Char.ext (UInt32.toNat_inj.1 hv))
  have hbyte {n : Nat} (hn : n < 256) (hne : n ≠ 37) : (0x25 : UInt8) ≠ UInt8.ofNat n := by
    intro heq
    have := congrArg UInt8.toNat heq
    rw [UInt8.toNat_ofNat_of_lt' hn] at this
    exact hne this.symm
  intro hmem
  rw [String.utf8EncodeChar] at hmem
  -- A character of one byte is its byte, and all bytes of others are above ASCII.
  split at hmem
  · rw [List.mem_singleton] at hmem
    exact hbyte (by omega) hval hmem
  split at hmem
  · simp only [List.mem_cons, List.not_mem_nil, or_false] at hmem
    rcases hmem with hmem | hmem <;> exact hbyte (by omega) (by omega) hmem
  split at hmem
  · simp only [List.mem_cons, List.not_mem_nil, or_false] at hmem
    rcases hmem with hmem | hmem | hmem <;> exact hbyte (by omega) (by omega) hmem
  · simp only [List.mem_cons, List.not_mem_nil, or_false] at hmem
    rcases hmem with hmem | hmem | hmem | hmem <;> exact hbyte (by omega) (by omega) hmem

/-- A digit of a group is one byte, and is read as its value. -/
theorem hexByte?_upperHexDigit : ∀ n < 16,
    String.utf8EncodeChar (upperHexDigit n) = [(upperHexDigit n).toNat.toUInt8] ∧
      hexByte? (upperHexDigit n).toNat.toUInt8 = some (UInt8.ofNat n) := by decide

theorem percentDecode_percentEncodeByte (b : UInt8) (rest : List UInt8) :
    percentDecode ((percentEncodeByte b).flatMap String.utf8EncodeChar ++ rest) =
      b :: percentDecode rest := by
  have hb : b.toNat < 256 := b.toNat_lt
  obtain ⟨hhigh, hhigh'⟩ := hexByte?_upperHexDigit (b.toNat / 16) (by omega)
  obtain ⟨hlow, hlow'⟩ := hexByte?_upperHexDigit (b.toNat % 16) (by omega)
  have hvalue : UInt8.ofNat (b.toNat / 16) * 16 + UInt8.ofNat (b.toNat % 16) = b := by
    apply UInt8.toNat_inj.1
    simp only [UInt8.toNat_add, UInt8.toNat_mul, UInt8.toNat_ofNat',
      show UInt8.toNat 16 = 16 from rfl]
    omega
  rw [percentEncodeByte]
  simp only [List.flatMap_cons, hhigh, hlow, show String.utf8EncodeChar '%' = [0x25] by decide,
    List.flatMap_nil, List.append_nil, List.cons_append, List.nil_append]
  rw [percentDecode, if_pos rfl, hhigh', hlow']
  dsimp only
  rw [hvalue]

theorem percentDecode_encodeBytes (bytes rest : List UInt8) :
    percentDecode ((bytes.flatMap percentEncodeByte).flatMap String.utf8EncodeChar ++ rest) =
      bytes ++ percentDecode rest := by
  induction bytes with
  | nil => rfl
  | cons b bytes ih =>
    rw [List.flatMap_cons, List.flatMap_append, List.append_assoc,
      percentDecode_percentEncodeByte, ih, List.cons_append]

theorem percentDecode_percentEncode {encoded : Char → Bool} (h : encoded '%' = true)
    (s : List Char) :
    percentDecode ((percentEncode encoded s).flatMap String.utf8EncodeChar) =
      s.flatMap String.utf8EncodeChar := by
  induction s with
  | nil => rfl
  | cons c s ih =>
    rw [percentEncode] at ih ⊢
    rw [List.flatMap_cons, List.flatMap_append, List.flatMap_cons, ← ih]
    by_cases hc : encoded c = true
    · rw [if_pos hc, percentDecode_encodeBytes]
    · have hne : c ≠ '%' := fun heq => hc (heq ▸ h)
      rw [if_neg hc, List.flatMap_singleton,
        percentDecode_append (percent_not_mem_utf8EncodeChar hne)]

/-- Decoding undoes encoding, whatever is encoded besides percent signs. -/
theorem percentDecoded?_percentEncode {encoded : Char → Bool} (h : encoded '%' = true)
    (s : String) : percentDecoded? (String.ofList (percentEncode encoded s.toList)) = some s := by
  rw [percentDecoded?, utf8, String.toList_ofList, percentDecode_percentEncode h]
  exact ofUtf8?_utf8 s

/-- A character that is encoded does not occur in what is written, unless it is a
    percent sign or a digit of a group. -/
theorem not_mem_percentEncode {encoded : Char → Bool} {c : Char} (h : encoded c = true)
    (hpercent : c ≠ '%') (hdigit : ∀ n < 16, c ≠ upperHexDigit n) (s : List Char) :
    c ∉ percentEncode encoded s := by
  intro hmem
  rw [percentEncode, List.mem_flatMap] at hmem
  obtain ⟨d, -, hc⟩ := hmem
  split at hc
  · obtain ⟨b, -, hb⟩ := List.mem_flatMap.1 hc
    have hbyte : b.toNat < 256 := b.toNat_lt
    simp only [percentEncodeByte, List.mem_cons, List.not_mem_nil, or_false] at hb
    rcases hb with hb | hb | hb
    · exact hpercent hb
    · exact hdigit _ (by omega) hb
    · exact hdigit _ (by omega) hb
  · next hd =>
    obtain rfl := List.mem_singleton.1 hc
    exact hd h

end LoginGate.Text
