import LoginGate.Decimal.Shortest
import LoginGate.Json.Value
import LoginGate.Text.Numeral

/-!
# Writing JSON

A document as compact text: no blanks, members in the order of the object.
Only quotes, backslashes and control characters are escaped in strings, with a
letter where JSON has one. A number of 64 bits is written with the fewest
digits that read back as it.
-/

namespace LoginGate.Json

/-- One character of a string. -/
def escapedChar (c : Char) : List Char :=
  match c with
  | '"' => ['\\', '"']
  | '\\' => ['\\', '\\']
  | '\x08' => ['\\', 'b']
  | '\x0c' => ['\\', 'f']
  | '\n' => ['\\', 'n']
  | '\r' => ['\\', 'r']
  | '\t' => ['\\', 't']
  | c =>
    if c.toNat < 32 then
      ['\\', 'u', '0', '0', Nat.digitChar (c.toNat / 16), Nat.digitChar (c.toNat % 16)]
    else [c]

/-- A string between its quotes. -/
def stringText (s : String) : List Char := '"' :: s.toList.flatMap escapedChar ++ ['"']

/-- How a decimal is laid out: digits around a point from `lowest` to
    `highest`, and otherwise with an exponent. -/
structure RealFormat where
  /-- Positions of the point above this one are written out. -/
  lowest : Int
  /-- Positions of the point up to this one are written out. -/
  highest : Int
  /-- The sign of an exponent that is not negative. -/
  plus : List Char

/-- Numbers from `1e-5` to below `1e16` are written out, whole ones with `.0`;
    the sign of an exponent is always written. -/
def realFormat : RealFormat := ⟨-5, 16, ['+']⟩

/-- A magnitude given by its digits and the position of its point. -/
def RealFormat.layOut (f : RealFormat) (digits : List Char) (point : Int) : List Char :=
  if f.lowest < point && point ≤ f.highest then
    if point ≤ 0 then ['0', '.'] ++ List.replicate (-point).toNat '0' ++ digits
    else if digits.length ≤ point.toNat then
      digits ++ List.replicate (point.toNat - digits.length) '0' ++ ['.', '0']
    else digits.take point.toNat ++ '.' :: digits.drop point.toNat
  else
    let exponent := point - 1
    let mantissa := match digits with
      | [d] => [d]
      | d :: rest => d :: '.' :: rest
      | [] => []
    let sign := if exponent < 0 then ['-'] else f.plus
    mantissa ++ 'e' :: sign ++ Text.decimal exponent.natAbs

/-- A finite number of 64 bits. -/
def realText (x : Float) : List Char :=
  let sign := if x.toBits.toNat < Word.size63 then [] else ['-']
  match (Decimal.Rounding.ofFloat x).shortest? with
  | some d =>
    if d.digits = 0 then sign ++ ['0', '.', '0']
    else sign ++ realFormat.layOut d.normalize.1 d.normalize.2
  | none => sign ++ ['0', '.', '0']

/-- A number. -/
def Number.text : Number → List Char
  | .natural n => Text.decimal n
  | .negative n => '-' :: Text.decimal n
  | .real x => realText x

mutual
/-- A document as compact text. -/
def Value.text : Value → List Char
  | .null => ['n', 'u', 'l', 'l']
  | .bool true => ['t', 'r', 'u', 'e']
  | .bool false => ['f', 'a', 'l', 's', 'e']
  | .number n => n.text
  | .string s => stringText s
  | .array [] => ['[', ']']
  | .array (v :: rest) => '[' :: v.text ++ itemsText rest
  | .object [] => ['\x7b', '\x7d']
  | .object ((k, v) :: rest) => '\x7b' :: stringText k ++ ':' :: v.text ++ membersText rest

/-- The items of an array after the first one, and its end. -/
def itemsText : List Value → List Char
  | [] => [']']
  | v :: rest => ',' :: v.text ++ itemsText rest

/-- The members of an object after the first one, and its end. -/
def membersText : List (String × Value) → List Char
  | [] => ['\x7d']
  | (k, v) :: rest => ',' :: stringText k ++ ':' :: v.text ++ membersText rest
end

/-- A document as a compact string. -/
def Value.render (v : Value) : String := String.ofList v.text

end LoginGate.Json
