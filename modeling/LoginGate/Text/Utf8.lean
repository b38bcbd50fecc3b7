/-!
# Text as bytes

The UTF-8 form of a text, and two ways back. The strict one gives nothing if
the bytes are the form of no text. The other one reads on, whatever the bytes are,
and gives a list of symbols: each longest run of bytes that begins a character
without completing it, and each byte that begins none, is a symbol of its own,
for which the replacement character is shown.

* `ofUtf8?_utf8`: the strict way back undoes writing;
* `utf8_injective`: two texts with the same bytes are the same.
-/

namespace LoginGate.Text

/-- The bytes of a text. -/
def utf8 (s : String) : List UInt8 := s.toList.flatMap String.utf8EncodeChar

/-- The text of bytes, if they are the bytes of one. -/
def ofUtf8? (bytes : List UInt8) : Option String := String.fromUTF8? bytes.toByteArray

/-! ### Symbols -/

/-- What bytes are read as. -/
inductive Symbol where
  /-- A character. -/
  | char (c : Char)
  /-- So many bytes that are no character. -/
  | stray (bytes : Nat)
deriving DecidableEq, Repr

/-- The character that stands for bytes of no character. -/
def replacement : Char := '\ufffd'

namespace Symbol

/-- The character that is shown for a symbol. -/
def shown : Symbol → Char
  | .char c => c
  | .stray _ => replacement

/-- How many bytes a symbol has in UTF-8. -/
def size : Symbol → Nat
  | .char c => c.utf8Size
  | .stray bytes => bytes

end Symbol

/-- The symbols of a text. -/
def symbols (s : List Char) : List Symbol := s.map .char

/-- The text that is shown for symbols. -/
def shownText (l : List Symbol) : String := String.ofList (l.map Symbol.shown)

/-! ### Reading on -/

/-- What is known of a character whose bytes are not complete. -/
structure Incomplete where
  /-- How many bytes are read. -/
  taken : Nat
  /-- How many bytes are still to come. -/
  missing : Nat
  /-- The bits read so far. -/
  bits : Nat
  /-- The least byte that may come next. -/
  least : UInt8
  /-- The greatest byte that may come next. -/
  greatest : UInt8

/-- What a byte begins. -/
inductive Beginning where
  /-- The byte is a character on its own. -/
  | whole (c : Char)
  /-- The byte begins a character of several bytes. -/
  | first (p : Incomplete)
  /-- The byte begins no character. -/
  | none

/-- What a byte begins. Bytes that could only begin the long form of a character
    that has a shorter one, or a surrogate, or a number beyond the last character
    are ruled out as early as possible. -/
def Beginning.ofByte (b : UInt8) : Beginning :=
  if b < 0x80 then .whole (Char.ofNat b.toNat)
  else if b < 0xc2 then .none
  else if b < 0xe0 then .first ⟨1, 1, b.toNat % 32, 0x80, 0xbf⟩
  else if b < 0xf0 then
    .first ⟨1, 2, b.toNat % 16, if b = 0xe0 then 0xa0 else 0x80, if b = 0xed then 0x9f else 0xbf⟩
  else if b < 0xf5 then
    .first ⟨1, 3, b.toNat % 8, if b = 0xf0 then 0x90 else 0x80, if b = 0xf4 then 0x8f else 0xbf⟩
  else .none

/-- The symbols of bytes after those of an incomplete character. -/
def readOn : Option Incomplete → List UInt8 → List Symbol
  | none, [] => []
  | some p, [] => [.stray p.taken]
  | pending, b :: rest =>
    let fresh := fun (_ : Unit) => match Beginning.ofByte b with
      | .whole c => .char c :: readOn none rest
      | .first p => readOn (some p) rest
      | .none => .stray 1 :: readOn none rest
    match pending with
    | none => fresh ()
    | some p =>
      if p.least ≤ b ∧ b ≤ p.greatest then
        let bits := p.bits * 64 + b.toNat % 64
        if p.missing ≤ 1 then .char (Char.ofNat bits) :: readOn none rest
        else readOn (some ⟨p.taken + 1, p.missing - 1, bits, 0x80, 0xbf⟩) rest
      else .stray p.taken :: fresh ()

/-- The symbols of bytes in UTF-8. -/
def utf8Symbols (bytes : List UInt8) : List Symbol := readOn none bytes

/-! ### There and back -/

theorem toByteArray_utf8 (s : String) : (utf8 s).toByteArray = s.toByteArray := by
  rw [utf8, ← List.utf8Encode, String.utf8Encode_toList]

@[simp] theorem ofUtf8?_utf8 (s : String) : ofUtf8? (utf8 s) = some s := by
  rw [ofUtf8?, toByteArray_utf8, String.fromUTF8?, dif_pos s.isValidUTF8]
  rfl

theorem utf8_injective {s t : String} (h : utf8 s = utf8 t) : s = t :=
  Option.some.inj (by rw [← ofUtf8?_utf8 s, ← ofUtf8?_utf8 t, h])

end LoginGate.Text
