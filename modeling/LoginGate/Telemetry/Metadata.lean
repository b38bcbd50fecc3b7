import LoginGate.Dictionary
import LoginGate.Http.MediaType
import LoginGate.Text.Base64
import LoginGate.Text.Blank
import LoginGate.Text.Split
import LoginGate.Text.Utf8

/-!
# Metadata

The headers for the collector of traces. They are given as one text: segments
between commas, each a key and a value around its first equals sign. Blanks around
keys and values do not count, segments without an equals sign are left out, and of
several segments with one key the last one counts.

Metadata are the headers as they are sent with every export. Keys are sent in small letters,
and a key that ends in `-bin` has bytes as its value, given in Base64. Entries
are put in one after the other, so that of two keys that differ in case only the
later one counts.
-/

namespace LoginGate.Telemetry

/-! ### Lists of headers -/

/-- The key and value of a segment, if it has an equals sign. -/
def segment? (s : List Char) : Option (String × String) :=
  (Text.cut? '=' s).map fun (key, value) =>
    (String.ofList (Text.trim key), String.ofList (Text.trim value))

/-- The headers in a text. -/
def parseHeaders (s : String) : Dictionary String String :=
  Dictionary.ofList ((Text.pieces ',' s.toList).filterMap segment?)

/-! ### What is sent -/

/-- Why headers cannot be sent. -/
inductive MetadataError where
  /-- The value for a key of bytes is not in Base64. -/
  | badBase64 (key : String)
  /-- A key of bytes has a character that no key may have. -/
  | badBinaryKey (key : String)
  /-- A key has a character that no key may have. -/
  | badKey (key : String)
  /-- A value has a character that no value may have. -/
  | badValue (key : String)
deriving DecidableEq, Repr

/-- The error in words. -/
def MetadataError.message : MetadataError → String
  | .badBase64 key => "failed to base64-decode value for key " ++ key ++ ": invalid Base64 encoding"
  | .badBinaryKey key =>
    "invalid binary metadata key " ++ key ++ ": invalid gRPC metadata key name"
  | .badKey key => "invalid ASCII metadata key " ++ key ++ ": invalid gRPC metadata key name"
  | .badValue key =>
    "invalid ASCII metadata value for key " ++ key ++ ": failed to parse metadata value"

/-- A value that is sent. -/
inductive MetadataValue where
  /-- A text. -/
  | text (value : String)
  /-- Bytes. -/
  | bytes (value : List UInt8)
deriving DecidableEq, Repr

/-- The longest key, in characters. -/
def keyLimit : Nat := 65535

/-- Whether a text may be a key. -/
def isKey (key : List Char) : Bool :=
  !key.isEmpty && key.length ≤ keyLimit && key.all Http.isTokenChar

/-- Whether a byte may stand in a value: all but controls other than the tab. -/
def isValueByte (b : UInt8) : Bool := (32 ≤ b && b != 127) || b == 9

/-- Whether a key in small letters is one of bytes. -/
def isBinaryKey (key : List Char) : Bool := "-bin".toList.isSuffixOf key

/-- The small letters of a key. -/
def smallKey (key : String) : String := String.ofList (key.toList.map Char.toLower)

/-- What is sent for a key in small letters and a value. -/
def metadataValue (key value : String) : Except MetadataError MetadataValue :=
  if isBinaryKey key.toList then
    match Text.base64Decode? value.toList with
    | none => .error (.badBase64 key)
    | some bytes => if isKey key.toList then .ok (.bytes bytes) else .error (.badBinaryKey key)
  else if !isKey key.toList then .error (.badKey key)
  else if (Text.utf8 value).all isValueByte then .ok (.text value)
  else .error (.badValue key)

/-- What is sent for headers, in the order of their entries. -/
def metadata (headers : List (String × String)) :
    Except MetadataError (Dictionary String MetadataValue) :=
  headers.foldlM (fun sent (key, value) => do
    let key := smallKey key
    return sent.insert key (← metadataValue key value)) .empty

end LoginGate.Telemetry
