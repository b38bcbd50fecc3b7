import LoginGate.Text.Numeral
import LoginGate.Text.Split

/-!
# Addresses of hosts

Numbers that stand for hosts. An address of 32 bits is written as up to four
numbers with dots between them, each decimal, octal after a leading zero or
hexadecimal after `0x`; the last number fills the bytes that are left. An
address of 128 bits is written as eight groups of hexadecimal digits, of which
one run of zeros may be left out between two colons, and the last two groups
may be written as an address of 32 bits.
-/

namespace LoginGate.Url

/-! ### Addresses of 32 bits -/

/-- The value of a hexadecimal digit. -/
def hexDigit? (c : Char) : Option Nat :=
  if '0' ≤ c ∧ c ≤ '9' then some (c.toNat - 48)
  else if 'a' ≤ c ∧ c ≤ 'f' then some (c.toNat - 87)
  else if 'A' ≤ c ∧ c ≤ 'F' then some (c.toNat - 55)
  else none

/-- The number that digits write in a base, if all of them are digits of it. -/
def inBase? (base : Nat) (digits : List Char) : Option Nat :=
  digits.foldlM (fun value c => do
    let digit ← hexDigit? c
    if digit < base then some (value * base + digit) else none) 0

/-- Reads one number of an address. -/
def addressNumber? : List Char → Option Nat
  | [] => none
  | ['0'] => some 0
  | '0' :: x :: digits =>
    if x = 'x' ∨ x = 'X' then inBase? 16 digits else inBase? 8 (x :: digits)
  | digits => inBase? 10 digits

/-- The parts of a name, without an empty part after a dot at the end. -/
def nameParts (name : List Char) : List (List Char) :=
  let parts := Text.pieces '.' name
  if 1 < parts.length ∧ parts.getLast? = some [] then parts.dropLast else parts

/-- Whether a name has to be an address: its last part is a number. -/
def endsInNumber (name : List Char) : Bool :=
  match (nameParts name).getLast? with
  | none => false
  | some last => (!last.isEmpty && last.all Char.isDigit) || (addressNumber? last).isSome

/-- Reads an address of 32 bits. -/
def ipv4? (name : List Char) : Option Nat := do
  let parts := nameParts name
  if 4 < parts.length then none
  else
    let numbers ← parts.mapM addressNumber?
    let last ← numbers.getLast?
    let bytes := numbers.dropLast
    let room := Nat.pow 256 (4 - bytes.length)
    if last < room ∧ bytes.all (· < 256) then
      some ((bytes.foldl (fun n b => n * 256 + b) 0) * room + last)
    else none

/-- The text of an address of 32 bits. -/
def ipv4Text (address : Nat) : List Char :=
  Text.join '.' ([3, 2, 1, 0].map fun place => Text.decimal (address / Nat.pow 256 place % 256))

/-! ### Addresses of 128 bits -/

/-- Reads a group of one to four hexadecimal digits. -/
def group? (digits : List Char) : Option Nat :=
  if !digits.isEmpty && digits.length ≤ 4 then inBase? 16 digits else none

/-- Reads a decimal number below 256 without leading zeros. -/
def plainByte? (digits : List Char) : Option Nat := do
  let value ← Text.digits? digits
  if value < 256 ∧ Text.decimal value = digits then some value else none

/-- Reads the last group of an address, which may be two groups written as an
    address of 32 bits. -/
def lastGroups? (text : List Char) : Option (List Nat) :=
  match Text.pieces '.' text with
  | [_] => (group? text).map ([·])
  | [a, b, c, d] => do
    let a ← plainByte? a
    let b ← plainByte? b
    let c ← plainByte? c
    let d ← plainByte? d
    return [a * 256 + b, c * 256 + d]
  | _ => none

/-- Reads groups with colons between them, given how the last one is read. -/
def groups? (last? : List Char → Option (List Nat)) : List (List Char) → Option (List Nat)
  | [] => some []
  | [last] => last? last
  | digits :: more => do return (← group? digits) :: (← groups? last? more)

/-- Reads the groups of a text, which may be empty. -/
def groupsOf? (last? : List Char → Option (List Nat)) (text : List Char) : Option (List Nat) :=
  if text.isEmpty then some [] else groups? last? (Text.pieces ':' text)

/-- What stands before and after the first double colon, if there is one. -/
def cutDoubleColon? : List Char → Option (List Char × List Char)
  | ':' :: ':' :: rest => some ([], rest)
  | [] => none
  | c :: rest => (cutDoubleColon? rest).map fun (before, after) => (c :: before, after)

/-- Reads the eight groups of an address of 128 bits. -/
def ipv6? (text : List Char) : Option (List Nat) :=
  match cutDoubleColon? text with
  | some (before, after) => do
    let first ← groupsOf? (fun digits => (group? digits).map ([·])) before
    let last ← groupsOf? lastGroups? after
    if first.length + last.length ≤ 7 then
      some (first ++ List.replicate (8 - first.length - last.length) 0 ++ last)
    else none
  | none => (groups? lastGroups? (Text.pieces ':' text)).filter (·.length = 8)

/-- The length of the run of zeros that groups begin with. -/
def zeroRun (groups : List Nat) : Nat := (groups.takeWhile (· = 0)).length

/-- The place and length of the first longest run of zeros. -/
def longestZeroRun : List Nat → Nat × Nat
  | [] => (0, 0)
  | g :: groups =>
    let (place, length) := longestZeroRun groups
    if length ≤ zeroRun (g :: groups) then (0, zeroRun (g :: groups)) else (place + 1, length)

/-- The text of groups with colons between them. -/
def groupsText (groups : List Nat) : List Char := Text.join ':' (groups.map (Nat.toDigits 16))

/-- The text of an address of 128 bits, in which the longest run of at least two
    zeros is left out. -/
def ipv6Text (groups : List Nat) : List Char :=
  let (place, length) := longestZeroRun groups
  if 2 ≤ length then
    groupsText (groups.take place) ++ [':', ':'] ++ groupsText (groups.drop (place + length))
  else groupsText groups

end LoginGate.Url
