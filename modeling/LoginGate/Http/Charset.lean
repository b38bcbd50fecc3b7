import LoginGate.Http.MediaType
import LoginGate.Http.Message
import LoginGate.Text.Blank
import LoginGate.Text.Utf16

/-!
# Charsets

How the bytes of a body are made a text. A mark at the beginning says that they are
Unicode, and in which form, and is no part of the text. Without a mark it is the
charset that the type of the body names, and UTF-8 if it names none, or none that is
known. Bytes that are no characters are shown as the replacement character.

Other charsets than those of Unicode are tables of characters, which are given from
outside (`Charsets`).
-/

namespace LoginGate.Http

/-- A form of Unicode. -/
inductive UnicodeForm where
  /-- UTF-8. -/
  | utf8
  /-- UTF-16 with the bytes of a unit in one order or the other. -/
  | utf16 (order : Text.ByteOrder)
deriving DecidableEq, Repr

namespace UnicodeForm

/-- All forms. -/
def all : List UnicodeForm := [.utf8, .utf16 .littleEndian, .utf16 .bigEndian]

/-- The mark that bytes of a form may begin with. -/
def mark : UnicodeForm → List UInt8
  | .utf8 => [0xef, 0xbb, 0xbf]
  | .utf16 .littleEndian => [0xff, 0xfe]
  | .utf16 .bigEndian => [0xfe, 0xff]

/-- The names of a form, in small letters. -/
def labels : UnicodeForm → List String
  | .utf8 =>
    ["utf-8", "utf8", "unicode-1-1-utf-8", "unicode11utf8", "unicode20utf8", "x-unicode20utf8"]
  | .utf16 .littleEndian =>
    ["utf-16", "utf-16le", "csunicode", "iso-10646-ucs-2", "ucs-2", "unicode", "unicodefeff"]
  | .utf16 .bigEndian => ["utf-16be", "unicodefffe"]

/-- The bytes of a text in a form. -/
def encode : UnicodeForm → String → List UInt8
  | .utf8 => Text.utf8
  | .utf16 order => Text.utf16 order

/-- The symbols of bytes in a form. -/
def symbols : UnicodeForm → List UInt8 → List Text.Symbol
  | .utf8 => Text.utf8Symbols
  | .utf16 order => Text.utf16Symbols order

/-- The form whose mark bytes begin with. -/
def ofMark? (bytes : List UInt8) : Option UnicodeForm :=
  all.find? fun form => form.mark.isPrefixOf bytes

/-- The form of a name in small letters. -/
def ofLabel? (label : String) : Option UnicodeForm :=
  all.find? fun form => form.labels.contains label

end UnicodeForm

/-- The charsets that are known beside those of Unicode. -/
class Charsets where
  /-- How bytes are made a text, in the charset of a name in small letters. -/
  decoder? : String → Option (List UInt8 → String)

/-- Where nothing is said about charsets, there is Unicode only. -/
instance : Charsets := ⟨fun _ => none⟩

/-- A charset. -/
inductive Charset where
  /-- A form of Unicode. -/
  | unicode (form : UnicodeForm)
  /-- Any other charset, by what it makes of bytes. -/
  | other (decode : List UInt8 → String)

namespace Charset

/-- The text of bytes without a mark. -/
def decode : Charset → List UInt8 → String
  | .unicode form, bytes => Text.shownText (form.symbols bytes)
  | .other decode, bytes => decode bytes

/-- The charset of a name, if it is known. Blanks around the name do not count, nor
    does the case of its letters. -/
def ofLabel? [Charsets] (label : List Char) : Option Charset :=
  let label := inSmallLetters (Text.trim label)
  match UnicodeForm.ofLabel? label with
  | some form => some (.unicode form)
  | none => (Charsets.decoder? label).map .other

/-- The name of a charset in the type of a body, if that is a media type with one. -/
def label? (headers : List Header) : Option (List Char) := do
  let mediaType ← (Header.firstText? "content-type" headers).bind MediaType.parse?
  mediaType.parameter? "charset"

/-- The charset of a body with the given headers, unless it has a mark. -/
def ofHeaders [Charsets] (headers : List Header) : Charset :=
  ((label? headers).bind ofLabel?).getD (.unicode .utf8)

end Charset

/-- The text of a body with the given headers. -/
def bodyText [Charsets] (headers : List Header) (bytes : List UInt8) : String :=
  match UnicodeForm.ofMark? bytes with
  | some form => (Charset.unicode form).decode (bytes.drop form.mark.length)
  | none => (Charset.ofHeaders headers).decode bytes

end LoginGate.Http
