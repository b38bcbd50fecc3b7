import LoginGate.Json.Printer
import LoginGate.Text.Quoted

/-!
# Errors of reading JSON

Why a text is no document, or a document not what was asked for, and where.
A position counts lines from one and, within a line, the bytes already read.
-/

namespace LoginGate.Json

/-- A place in a text. -/
structure Position where
  /-- The line, counted from one. -/
  line : Nat
  /-- The bytes of the line that lie before the place. -/
  column : Nat
deriving DecidableEq, Repr

/-- What stands where something else was expected. -/
inductive Found where
  | null
  | bool (b : Bool)
  | number (n : Number)
  | string (s : String)
  | array
  | object

/-- Why reading stopped. -/
inductive Cause where
  | unfinishedArray
  | unfinishedObject
  | unfinishedString
  | unfinishedValue
  | noColon
  | noCommaOrArrayEnd
  | noCommaOrObjectEnd
  | noLiteral
  | noValue
  | badEscape
  | badNumber
  | numberOutOfRange
  | controlCharacter
  | keyNotString
  | loneSurrogate
  | brokenSurrogatePair
  | noCharacter
  | trailingComma
  | trailingCharacters
  | tooDeep
  /-- A value of another kind than the expected one. -/
  | wrongKind (found : Found) (expected : String)
  /-- An array of another length than the expected one. -/
  | wrongLength (found : Nat) (expected : String)
  | missingField (name : String)
  | repeatedField (name : String)
  /-- A name that is none of the admitted ones. -/
  | unknownVariant (found : String) (admitted : List String)

/-- Why reading failed, and where, unless the fault is of the whole document. -/
structure Error where
  /-- Why reading stopped. -/
  cause : Cause
  /-- Where it stopped. -/
  position : Option Position

/-- The kind of a document. -/
def Value.found : Value → Found
  | .null => .null
  | .bool b => .bool b
  | .number n => .number n
  | .string s => .string s
  | .array _ => .array
  | .object _ => .object

/-- What stands there, in words. -/
def Found.message : Found → String
  | .null => "null"
  | .bool true => "boolean \x60true\x60"
  | .bool false => "boolean \x60false\x60"
  | .number (.real x) => "floating point \x60" ++ String.ofList (realText x) ++ "\x60"
  | .number n => "integer \x60" ++ String.ofList n.text ++ "\x60"
  | .string s => "string " ++ Text.quoted s
  | .array => "sequence"
  | .object => "map"

/-- A name between backquotes. -/
def backquoted (s : String) : String := "\x60" ++ s ++ "\x60"

/-- The admitted names, in words. -/
def admittedNames : List String → String
  | [] => "there are no variants"
  | [a] => "expected " ++ backquoted a
  | [a, b] => "expected " ++ backquoted a ++ " or " ++ backquoted b
  | names => "expected one of " ++ ", ".intercalate (names.map backquoted)

/-- Why reading stopped, in words. -/
def Cause.message : Cause → String
  | .unfinishedArray => "EOF while parsing a list"
  | .unfinishedObject => "EOF while parsing an object"
  | .unfinishedString => "EOF while parsing a string"
  | .unfinishedValue => "EOF while parsing a value"
  | .noColon => "expected \x60:\x60"
  | .noCommaOrArrayEnd => "expected \x60,\x60 or \x60]\x60"
  | .noCommaOrObjectEnd => "expected \x60,\x60 or \x60\x7d\x60"
  | .noLiteral => "expected ident"
  | .noValue => "expected value"
  | .badEscape => "invalid escape"
  | .badNumber => "invalid number"
  | .numberOutOfRange => "number out of range"
  | .controlCharacter =>
    "control character (\\u0000-\\u001F) found while parsing a string"
  | .keyNotString => "key must be a string"
  | .loneSurrogate => "lone leading surrogate in hex escape"
  | .brokenSurrogatePair => "unexpected end of hex escape"
  | .noCharacter => "invalid unicode code point"
  | .trailingComma => "trailing comma"
  | .trailingCharacters => "trailing characters"
  | .tooDeep => "recursion limit exceeded"
  | .wrongKind found expected => "invalid type: " ++ found.message ++ ", expected " ++ expected
  | .wrongLength found expected => "invalid length " ++ Text.numeral found ++ ", expected " ++ expected
  | .missingField name => "missing field " ++ backquoted name
  | .repeatedField name => "duplicate field " ++ backquoted name
  | .unknownVariant found admitted =>
    "unknown variant " ++ backquoted found ++ ", " ++ admittedNames admitted

/-- The error in words, with its place if it has one. -/
def Error.message (e : Error) : String :=
  match e.position with
  | some p =>
    e.cause.message ++ " at line " ++ Text.numeral p.line ++ " column " ++ Text.numeral p.column
  | none => e.cause.message

end LoginGate.Json
