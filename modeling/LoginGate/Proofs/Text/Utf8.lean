import LoginGate.Text.Utf8

/-!
# Reading bytes on

Where bytes are read on, whatever they are, the bytes of a text are still read as
the text: each character from its own bytes (`readOn_utf8EncodeChar`), one after
another. And a character is read from no other bytes (`exists_of_readOn`), so the
symbols of bytes are those of a text exactly if they are the bytes of the text
(`utf8Symbols_eq_iff`).
-/

namespace LoginGate.Text

section ReadOn

variable {n bits taken missing : Nat} {least greatest : UInt8} {rest : List UInt8}

/-- What a byte begins, by its number. -/
theorem ofByte_eq (b : UInt8) : Beginning.ofByte b =
    if b.toNat < 0x80 then .whole (Char.ofNat b.toNat)
    else if b.toNat < 0xc2 then .none
    else if b.toNat < 0xe0 then .first ⟨1, 1, b.toNat % 32, 0x80, 0xbf⟩
    else if b.toNat < 0xf0 then
      .first ⟨1, 2, b.toNat % 16, if b.toNat = 0xe0 then 0xa0 else 0x80,
        if b.toNat = 0xed then 0x9f else 0xbf⟩
    else if b.toNat < 0xf5 then
      .first ⟨1, 3, b.toNat % 8, if b.toNat = 0xf0 then 0x90 else 0x80,
        if b.toNat = 0xf4 then 0x8f else 0xbf⟩
    else .none := by
  simp only [Beginning.ofByte, UInt8.lt_iff_toNat_lt, ← UInt8.toNat_inj, UInt8.reduceToNat]

theorem toNat_ofNat_of_lt (h : n < 256) : (UInt8.ofNat n).toNat = n := by
  rw [UInt8.toNat_ofNat', Nat.mod_eq_of_lt h]

theorem readOn_first {p : Incomplete} {b : UInt8} (h : Beginning.ofByte b = .first p) :
    readOn none (b :: rest) = readOn (some p) rest := by
  rw [readOn.eq_def]
  simp only [h]

/-- A byte continues a character if it is within the bounds. -/
theorem continues_ofNat (hn : n < 256) (h : least.toNat ≤ n ∧ n ≤ greatest.toNat) :
    (least ≤ UInt8.ofNat n ∧ UInt8.ofNat n ≤ greatest) ∧ (UInt8.ofNat n).toNat = n := by
  have hmod : (UInt8.ofNat n).toNat = n := toNat_ofNat_of_lt hn
  rw [UInt8.le_iff_toNat_le, UInt8.le_iff_toNat_le, hmod]
  exact ⟨h, rfl⟩

theorem readOn_next (hn : n < 256) (h : least.toNat ≤ n ∧ n ≤ greatest.toNat) :
    readOn (some ⟨taken, missing + 2, bits, least, greatest⟩) (UInt8.ofNat n :: rest) =
      readOn (some ⟨taken + 1, missing + 1, bits * 64 + n % 64, 0x80, 0xbf⟩) rest := by
  obtain ⟨hwithin, hmod⟩ := continues_ofNat hn h
  rw [readOn.eq_def]
  simp only [if_pos hwithin, hmod]
  rw [if_neg (by omega)]
  rfl

theorem readOn_last (hn : n < 256) (h : least.toNat ≤ n ∧ n ≤ greatest.toNat) :
    readOn (some ⟨taken, 1, bits, least, greatest⟩) (UInt8.ofNat n :: rest) =
      .char (Char.ofNat (bits * 64 + n % 64)) :: readOn none rest := by
  obtain ⟨hwithin, hmod⟩ := continues_ofNat hn h
  rw [readOn.eq_def]
  simp only [if_pos hwithin, hmod]
  rw [if_pos (Nat.le_refl 1)]

/-- The last byte of a character, which holds its last six bits. -/
theorem readOn_tail (n : Nat) (hbits : bits = n / 64) :
    readOn (some ⟨taken, 1, bits, 0x80, 0xbf⟩) (UInt8.ofNat (n % 64 + 128) :: rest) =
      .char (Char.ofNat n) :: readOn none rest := by
  rw [readOn_last (by omega) ⟨by simp, by simp; omega⟩]
  congr 3
  omega

/-- A character is read again from its bytes. -/
theorem readOn_utf8EncodeChar (c : Char) (rest : List UInt8) :
    readOn none (String.utf8EncodeChar c ++ rest) = .char c :: readOn none rest := by
  have hvalid : c.toNat < 0xd800 ∨ (0xdfff < c.toNat ∧ c.toNat < 0x110000) := c.valid
  have hchar := Char.ofNat_toNat c
  simp only [String.utf8EncodeChar, Char.toNat] at *
  generalize c.val.toNat = n at *
  -- One case for each number of bytes.
  split
  · next h =>
    rw [List.singleton_append, readOn.eq_def]
    simp only [ofByte_eq, toNat_ofNat_of_lt (show n < 256 by omega),
      if_pos (show n < 0x80 by omega), hchar]
  split
  · next h =>
    have hfirst : Beginning.ofByte (UInt8.ofNat (n / 64 % 32 + 192)) =
        .first ⟨1, 1, (n / 64 % 32 + 192) % 32, 0x80, 0xbf⟩ := by
      rw [ofByte_eq, toNat_ofNat_of_lt (by omega), if_neg (by omega), if_neg (by omega), if_pos (by omega)]
    rw [List.cons_append, readOn_first hfirst, List.singleton_append, readOn_tail n (by omega),
      hchar]
  split
  · next h =>
    have hfirst : Beginning.ofByte (UInt8.ofNat (n / 4096 % 16 + 224)) =
        .first ⟨1, 2, (n / 4096 % 16 + 224) % 16,
          if n / 4096 % 16 + 224 = 0xe0 then 0xa0 else 0x80,
          if n / 4096 % 16 + 224 = 0xed then 0x9f else 0xbf⟩ := by
      rw [ofByte_eq, toNat_ofNat_of_lt (by omega), if_neg (by omega), if_neg (by omega),
        if_neg (by omega), if_pos (by omega)]
    rw [List.cons_append, readOn_first hfirst, List.cons_append, readOn_next (by omega),
      List.singleton_append, readOn_tail n (by omega), hchar]
    constructor <;> split <;> simp only [UInt8.reduceToNat] <;> omega
  · have hfirst : Beginning.ofByte (UInt8.ofNat (n / 262144 % 8 + 240)) =
        .first ⟨1, 3, (n / 262144 % 8 + 240) % 8,
          if n / 262144 % 8 + 240 = 0xf0 then 0x90 else 0x80,
          if n / 262144 % 8 + 240 = 0xf4 then 0x8f else 0xbf⟩ := by
      rw [ofByte_eq, toNat_ofNat_of_lt (by omega), if_neg (by omega), if_neg (by omega),
        if_neg (by omega), if_neg (by omega), if_pos (by omega)]
    rw [List.cons_append, readOn_first hfirst, List.cons_append, readOn_next (by omega),
      List.cons_append, readOn_next (by omega) ⟨by simp, by simp; omega⟩,
      List.singleton_append, readOn_tail n (by omega), hchar]
    constructor <;> split <;> simp only [UInt8.reduceToNat] <;> omega

/-! ### Characters come from their bytes only -/

variable {a b c d : UInt8}

theorem val_ofNat (h : n.isValidChar) : (Char.ofNat n).val.toNat = n := by
  rw [Char.ofNat, dif_pos h]
  rfl

theorem ofNat_eq (h : n = b.toNat) : UInt8.ofNat n = b := by rw [h, UInt8.ofNat_toNat]

theorem utf8EncodeChar_one (ha : a.toNat < 0x80) :
    String.utf8EncodeChar (Char.ofNat a.toNat) = [a] := by
  simp only [String.utf8EncodeChar, val_ofNat (.inl (show a.toNat < 0xd800 by omega))]
  rw [if_pos (by omega), UInt8.ofNat_toNat]

theorem utf8EncodeChar_two (ha : 0xc2 ≤ a.toNat ∧ a.toNat < 0xe0)
    (hb : 0x80 ≤ b.toNat ∧ b.toNat ≤ 0xbf) :
    String.utf8EncodeChar (Char.ofNat (a.toNat % 32 * 64 + b.toNat % 64)) = [a, b] := by
  have hvalid : (a.toNat % 32 * 64 + b.toNat % 64).isValidChar := .inl (by omega)
  simp only [String.utf8EncodeChar, val_ofNat hvalid]
  rw [if_neg (by omega), if_pos (by omega), ofNat_eq (b := a) (by omega),
    ofNat_eq (b := b) (by omega)]

theorem utf8EncodeChar_three (ha : 0xe0 ≤ a.toNat ∧ a.toNat < 0xf0)
    (hb : 0x80 ≤ b.toNat ∧ b.toNat ≤ 0xbf) (hleast : a.toNat = 0xe0 → 0xa0 ≤ b.toNat)
    (hgreatest : a.toNat = 0xed → b.toNat ≤ 0x9f) (hc : 0x80 ≤ c.toNat ∧ c.toNat ≤ 0xbf) :
    String.utf8EncodeChar
      (Char.ofNat ((a.toNat % 16 * 64 + b.toNat % 64) * 64 + c.toNat % 64)) = [a, b, c] := by
  have hvalid : ((a.toNat % 16 * 64 + b.toNat % 64) * 64 + c.toNat % 64).isValidChar := by
    rw [Nat.isValidChar]
    omega
  simp only [String.utf8EncodeChar, val_ofNat hvalid]
  rw [if_neg (by omega), if_neg (by omega), if_pos (by omega), ofNat_eq (b := a) (by omega),
    ofNat_eq (b := b) (by omega), ofNat_eq (b := c) (by omega)]

theorem utf8EncodeChar_four (ha : 0xf0 ≤ a.toNat ∧ a.toNat < 0xf5)
    (hb : 0x80 ≤ b.toNat ∧ b.toNat ≤ 0xbf) (hleast : a.toNat = 0xf0 → 0x90 ≤ b.toNat)
    (hgreatest : a.toNat = 0xf4 → b.toNat ≤ 0x8f) (hc : 0x80 ≤ c.toNat ∧ c.toNat ≤ 0xbf)
    (hd : 0x80 ≤ d.toNat ∧ d.toNat ≤ 0xbf) :
    String.utf8EncodeChar (Char.ofNat
      (((a.toNat % 8 * 64 + b.toNat % 64) * 64 + c.toNat % 64) * 64 + d.toNat % 64)) =
        [a, b, c, d] := by
  have hvalid :
      (((a.toNat % 8 * 64 + b.toNat % 64) * 64 + c.toNat % 64) * 64 + d.toNat % 64).isValidChar := by
    rw [Nat.isValidChar]
    omega
  simp only [String.utf8EncodeChar, val_ofNat hvalid]
  rw [if_neg (by omega), if_neg (by omega), if_neg (by omega), ofNat_eq (b := a) (by omega),
    ofNat_eq (b := b) (by omega), ofNat_eq (b := c) (by omega), ofNat_eq (b := d) (by omega)]

variable {p : Prop} [Decidable p] {bound : UInt8} {bytes : List UInt8} {x : Char}
  {l : List Symbol}

/-- What is above the bound for a second byte is above that for all of them. -/
theorem least_cases (h : (if p then bound else 0x80).toNat ≤ n) (hbound : 0x80 ≤ bound.toNat) :
    (p → bound.toNat ≤ n) ∧ 0x80 ≤ n := by
  split at h
  · exact ⟨fun _ => h, Nat.le_trans hbound h⟩
  · next hp => exact ⟨fun hp' => absurd hp' hp, h⟩

theorem greatest_cases (h : n ≤ (if p then bound else 0xbf).toNat) (hbound : bound.toNat ≤ 0xbf) :
    (p → n ≤ bound.toNat) ∧ n ≤ 0xbf := by
  split at h
  · exact ⟨fun _ => h, Nat.le_trans h hbound⟩
  · next hp => exact ⟨fun hp' => absurd hp' hp, h⟩

/-- A character that is not complete goes on with a byte within its bounds. -/
theorem exists_of_readOn_some {p : Incomplete} (h : readOn (some p) bytes = .char x :: l) :
    ∃ b rest, bytes = b :: rest ∧ p.least.toNat ≤ b.toNat ∧ b.toNat ≤ p.greatest.toNat ∧
      (if p.missing ≤ 1 then .char (Char.ofNat (p.bits * 64 + b.toNat % 64)) :: readOn none rest
        else readOn (some ⟨p.taken + 1, p.missing - 1, p.bits * 64 + b.toNat % 64, 0x80, 0xbf⟩)
          rest) = .char x :: l := by
  rw [readOn.eq_def] at h
  cases bytes with
  | nil => cases h
  | cons b rest =>
    dsimp only at h
    split at h
    · next hwithin =>
      exact ⟨b, rest, rfl, UInt8.le_iff_toNat_le.1 hwithin.1, UInt8.le_iff_toNat_le.1 hwithin.2, h⟩
    · cases h

/-- A character is read only from its bytes. -/
theorem exists_of_readOn (h : readOn none bytes = .char x :: l) :
    ∃ rest, bytes = String.utf8EncodeChar x ++ rest ∧ readOn none rest = l := by
  cases bytes with
  | nil =>
    rw [readOn] at h
    cases h
  | cons a rest =>
    rw [readOn.eq_def] at h
    have hbegins := ofByte_eq a
    dsimp only at h
    -- One case for each number of bytes, and two for bytes that begin no character.
    split at hbegins
    · next ha =>
      rw [hbegins] at h
      cases h
      exact ⟨rest, by rw [utf8EncodeChar_one ha]; rfl, rfl⟩
    split at hbegins
    · rw [hbegins] at h
      cases h
    split at hbegins
    · rw [hbegins] at h
      obtain ⟨b, rest, rfl, hb, hb', h⟩ := exists_of_readOn_some h
      cases h
      exact ⟨rest, by rw [utf8EncodeChar_two ⟨by omega, by omega⟩ ⟨hb, hb'⟩]; rfl, rfl⟩
    split at hbegins
    · rw [hbegins] at h
      obtain ⟨b, rest, rfl, hb, hb', h⟩ := exists_of_readOn_some h
      obtain ⟨c, rest, rfl, hc, hc', h⟩ := exists_of_readOn_some h
      cases h
      obtain ⟨hleast, hb⟩ := least_cases hb (by decide)
      obtain ⟨hgreatest, hb'⟩ := greatest_cases hb' (by decide)
      have hchar := utf8EncodeChar_three ⟨by omega, by omega⟩ ⟨hb, hb'⟩ hleast hgreatest ⟨hc, hc'⟩
      exact ⟨rest, by rw [hchar]; rfl, rfl⟩
    split at hbegins
    · rw [hbegins] at h
      obtain ⟨b, rest, rfl, hb, hb', h⟩ := exists_of_readOn_some h
      obtain ⟨c, rest, rfl, hc, hc', h⟩ := exists_of_readOn_some h
      obtain ⟨d, rest, rfl, hd, hd', h⟩ := exists_of_readOn_some h
      cases h
      obtain ⟨hleast, hb⟩ := least_cases hb (by decide)
      obtain ⟨hgreatest, hb'⟩ := greatest_cases hb' (by decide)
      have hchar := utf8EncodeChar_four ⟨by omega, by omega⟩ ⟨hb, hb'⟩ hleast hgreatest ⟨hc, hc'⟩
        ⟨hd, hd'⟩
      exact ⟨rest, by rw [hchar]; rfl, rfl⟩
    · rw [hbegins] at h
      cases h

/-- Bytes are read as something. -/
theorem eq_nil_of_readOn {pending : Option Incomplete} (h : readOn pending bytes = []) :
    pending = none ∧ bytes = [] := by
  induction bytes generalizing pending with
  | nil =>
    cases pending with
    | none => exact ⟨rfl, rfl⟩
    | some p => cases h
  | cons b rest ih =>
    have hfresh {p : Incomplete} : readOn (some p) rest ≠ [] := fun h => nomatch (ih h).1
    rw [readOn.eq_def] at h
    cases pending with
    | none =>
      dsimp only at h
      split at h
      · cases h
      · exact absurd h hfresh
      · cases h
    | some p =>
      dsimp only at h
      split at h
      · split at h
        · cases h
        · exact absurd h hfresh
      · cases h

end ReadOn

/-- If each character is read from bytes of its own, and from no others, then the
    symbols of bytes are characters exactly if the bytes are those of the characters. -/
theorem eq_symbols_iff {read : List UInt8 → List Symbol} {encode : Char → List UInt8}
    (hnil : ∀ {bytes}, read bytes = [] ↔ bytes = [])
    (hread : ∀ c rest, read (encode c ++ rest) = .char c :: read rest)
    (hchar : ∀ {bytes c l}, read bytes = .char c :: l →
      ∃ rest, bytes = encode c ++ rest ∧ read rest = l)
    {bytes : List UInt8} {l : List Char} : read bytes = symbols l ↔ bytes = l.flatMap encode := by
  induction l generalizing bytes with
  | nil => exact hnil
  | cons c l ih =>
    rw [List.flatMap_cons, symbols, List.map_cons]
    constructor
    · intro h
      obtain ⟨rest, rfl, hrest⟩ := hchar h
      rw [ih.1 hrest]
    · rintro rfl
      rw [hread, ih.2 rfl]
      rfl

/-- The symbols of bytes are those of a text exactly if the bytes are those of the
    text. -/
theorem utf8Symbols_eq_iff {bytes : List UInt8} {s : String} :
    utf8Symbols bytes = symbols s.toList ↔ bytes = utf8 s := by
  have hnil {bytes : List UInt8} : readOn none bytes = [] ↔ bytes = [] :=
    ⟨fun h => (eq_nil_of_readOn h).2, by rintro rfl; rfl⟩
  exact eq_symbols_iff hnil readOn_utf8EncodeChar exists_of_readOn

@[simp] theorem shownText_symbols (s : String) : shownText (symbols s.toList) = s := by
  rw [shownText, symbols, List.map_map]
  exact (congrArg String.ofList (List.map_id _)).trans String.ofList_toList

/-- A text without the replacement character is shown for its own symbols only. -/
theorem shownText_eq_iff {l : List Symbol} {s : String} (h : replacement ∉ s.toList) :
    shownText l = s ↔ l = symbols s.toList := by
  have hall (l : List Symbol) (cs : List Char) (h : replacement ∉ cs) :
      l.map Symbol.shown = cs ↔ l = symbols cs := by
    induction l generalizing cs with
    | nil => cases cs <;> simp [symbols]
    | cons x l ih =>
      cases cs with
      | nil => simp [symbols]
      | cons c cs =>
        rw [List.mem_cons, not_or] at h
        simp only [symbols, List.map_cons, List.cons.injEq] at ih ⊢
        rw [ih cs h.2]
        refine and_congr_left fun _ => ?_
        cases x with
        | char d => rw [Symbol.shown, Symbol.char.injEq]
        | stray bytes => exact iff_of_false h.1 nofun
  rw [← hall l s.toList h, shownText]
  exact ⟨fun h => by rw [← h, String.toList_ofList], fun h => by rw [h, String.ofList_toList]⟩

@[simp] theorem utf8Symbols_utf8 (s : String) : utf8Symbols (utf8 s) = symbols s.toList :=
  utf8Symbols_eq_iff.2 rfl

end LoginGate.Text
