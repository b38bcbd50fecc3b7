import LoginGate.Text.Utf8

/-!
# Text as units of two bytes

The UTF-16 form of a text, in which the two bytes of a unit stand in one order or
the other. A character beyond those of one unit is written as a high and a low
surrogate.

The way back reads on, whatever the bytes are: a surrogate without the other one,
and what is left of a unit or a pair at the end, is a symbol of its own.
-/

namespace LoginGate.Text

/-- The order of the two bytes of a unit. -/
inductive ByteOrder where
  /-- The low byte comes first. -/
  | littleEndian
  /-- The high byte comes first. -/
  | bigEndian
deriving DecidableEq, Repr

namespace ByteOrder

/-- The bytes of a unit. -/
def bytes (order : ByteOrder) (unit : Nat) : List UInt8 :=
  match order with
  | .littleEndian => [UInt8.ofNat (unit % 256), UInt8.ofNat (unit / 256)]
  | .bigEndian => [UInt8.ofNat (unit / 256), UInt8.ofNat (unit % 256)]

/-- The unit of two bytes. -/
def unit (order : ByteOrder) (first second : UInt8) : Nat :=
  match order with
  | .littleEndian => second.toNat * 256 + first.toNat
  | .bigEndian => first.toNat * 256 + second.toNat

end ByteOrder

/-! ### Units -/

/-- The character of a pair of surrogates. -/
def surrogatePair (high low : Nat) : Char :=
  Char.ofNat (0x10000 + (high - 0xd800) * 1024 + (low - 0xdc00))

/-- Whether a unit is the first surrogate of a pair. -/
def isHighSurrogate (unit : Nat) : Bool := 0xd800 ≤ unit && unit ≤ 0xdbff

/-- Whether a unit is the second surrogate of a pair. -/
def isLowSurrogate (unit : Nat) : Bool := 0xdc00 ≤ unit && unit ≤ 0xdfff

/-- The units of a character. -/
def units (c : Char) : List Nat :=
  if c.toNat < 0x10000 then [c.toNat]
  else [0xd800 + (c.toNat - 0x10000) / 1024, 0xdc00 + (c.toNat - 0x10000) % 1024]

/-- The bytes of a text in UTF-16. -/
def utf16 (order : ByteOrder) (s : String) : List UInt8 :=
  s.toList.flatMap fun c => (units c).flatMap order.bytes

/-! ### Reading on -/

/-- The symbols of bytes after the high surrogate of a pair, if there is one. -/
def readUnits (order : ByteOrder) : Option Nat → List UInt8 → List Symbol
  | none, [] => []
  | some _, [] => [.stray 2]
  | none, [_] => [.stray 1]
  | some _, [_] => [.stray 3]
  | high, first :: second :: rest =>
    let unit := order.unit first second
    let fresh := fun (_ : Unit) =>
      if isHighSurrogate unit then readUnits order (some unit) rest
      else if isLowSurrogate unit then .stray 2 :: readUnits order none rest
      else .char (Char.ofNat unit) :: readUnits order none rest
    match high with
    | none => fresh ()
    | some high =>
      if isLowSurrogate unit then .char (surrogatePair high unit) :: readUnits order none rest
      else .stray 2 :: fresh ()

/-- The symbols of bytes in UTF-16. -/
def utf16Symbols (order : ByteOrder) (bytes : List UInt8) : List Symbol :=
  readUnits order none bytes

end LoginGate.Text
