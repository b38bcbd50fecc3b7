import LoginGate.Json.Error
import LoginGate.Text.Utf16

/-!
# Reading JSON from left to right

A reader takes a cursor into a text and gives a result, or an error, and the
cursor where it stopped. Documents are read in one pass, and a reader that
knows what it expects complains at the first thing that does not fit, even if
the text goes wrong further on.

There are three ways to place an error: at the cursor (`fail`), one byte ahead
of it, when the next byte is the fault (`failAhead`), or not yet (`failLater`),
for a fault of a value as a whole. The last kind gets its place from the array
or object around the value: its end is read first, as far as it is there, and
the error is placed where that leaves the cursor (`enclosed`).

Texts are lists of symbols, as bytes may come along that are no characters. Such a
symbol is at home in no value but a string, and a string that is to be given must
be without it.

Loops take a number of rounds computed from the length of the text that is
left: each round consumes at least one symbol, so they never run out.
-/

namespace LoginGate.Json

open Text (Symbol surrogatePair)

/-- A place in a text together with the text that follows. -/
structure Cursor where
  /-- The line, counted from one. -/
  line : Nat
  /-- The bytes of the line that are already read. -/
  column : Nat
  /-- What is not read yet. -/
  rest : List Symbol

namespace Cursor

/-- The beginning of symbols. -/
def first (symbols : List Symbol) : Cursor := ⟨1, 0, symbols⟩

/-- The beginning of a text. -/
def start (s : String) : Cursor := first (Text.symbols s.toList)

/-- The place of a cursor. -/
def position (c : Cursor) : Position := ⟨c.line, c.column⟩

/-- The cursor after the next symbol, or the same at the end. -/
def advance (c : Cursor) : Cursor :=
  match c.rest with
  | [] => c
  | x :: rest =>
    if x.shown = '\n' then ⟨c.line + 1, 0, rest⟩ else ⟨c.line, c.column + x.size, rest⟩

/-- The place some bytes further on in a text, or its end if it is shorter. -/
def placeAfter (line column : Nat) : Nat → List Symbol → Position
  | 0, _ => ⟨line, column⟩
  | _, [] => ⟨line, column⟩
  | bytes + 1, x :: rest =>
    if x.shown = '\n' then placeAfter (line + 1) 0 bytes rest
    else if x.size ≤ bytes + 1 then
      placeAfter line (column + x.size) (bytes + 1 - x.size) rest
    else ⟨line, column + (bytes + 1)⟩

/-- The place some bytes after a cursor. -/
def positionAfter (c : Cursor) (bytes : Nat) : Position := placeAfter c.line c.column bytes c.rest

/-- The cursor after the blanks that a text on the given place begins with. -/
def afterBlanks (line column : Nat) : List Symbol → Cursor
  | [] => ⟨line, column, []⟩
  | x :: rest =>
    if x.shown = '\n' then afterBlanks (line + 1) 0 rest
    else if x.shown = ' ' ∨ x.shown = '\t' ∨ x.shown = '\r' then
      afterBlanks line (column + 1) rest
    else ⟨line, column, x :: rest⟩

/-- The cursor after the blanks that follow. -/
def skipBlanks (c : Cursor) : Cursor := afterBlanks c.line c.column c.rest

end Cursor

/-- A reader of something from a text. -/
def Reader (α : Type) := Cursor → Except Error α × Cursor

namespace Reader

instance : Monad Reader where
  pure a c := (.ok a, c)
  bind r f c :=
    match r c with
    | (.ok a, c) => f a c
    | (.error e, c) => (.error e, c)

/-- Stops with an error at the cursor. -/
def fail {α : Type} (cause : Cause) : Reader α := fun c => (.error ⟨cause, some c.position⟩, c)

/-- Stops with an error about the next byte. -/
def failAhead {α : Type} (cause : Cause) : Reader α :=
  fun c => (.error ⟨cause, some (c.positionAfter 1)⟩, c)

/-- Stops with an error that has no place yet. -/
def failLater {α : Type} (cause : Cause) : Reader α := fun c => (.error ⟨cause, none⟩, c)

/-- Places an error that has no place yet where the reader stopped. -/
def placed {α : Type} (r : Reader α) : Reader α := fun c =>
  match r c with
  | (.error ⟨cause, none⟩, c) => (.error ⟨cause, some c.position⟩, c)
  | other => other

/-- The next character, if there is one. -/
def next? : Reader (Option Char) := fun c => (.ok (c.rest.head?.map Symbol.shown), c)

/-- The next character that is not blank, if there is one. -/
def peek : Reader (Option Char) :=
  fun c => (.ok (c.skipBlanks.rest.head?.map Symbol.shown), c.skipBlanks)

/-- Moves past the next symbol. -/
def skip : Reader Unit := fun c => (.ok (), c.advance)

/-- The length of the text that is left. -/
def remaining : Reader Nat := fun c => (.ok c.rest.length, c)

/-! ### Literals and strings -/

/-- Reads the rest of a literal. -/
def literal : List Char → Reader Unit
  | [] => pure ()
  | x :: rest => do
    match ← next? with
    | none => fail .unfinishedValue
    | some y =>
      if x = y then do
        skip
        literal rest
      else failAhead .noLiteral

/-- The value of a hexadecimal digit. -/
def hexDigit? (c : Char) : Option Nat :=
  if '0' ≤ c ∧ c ≤ '9' then some (c.toNat - 48)
  else if 'a' ≤ c ∧ c ≤ 'f' then some (c.toNat - 87)
  else if 'A' ≤ c ∧ c ≤ 'F' then some (c.toNat - 55)
  else none

/-- The value of four hexadecimal digits. -/
def hexQuad? (a b c d : Symbol) : Option Nat := do
  let a ← hexDigit? a.shown
  let b ← hexDigit? b.shown
  let c ← hexDigit? c.shown
  let d ← hexDigit? d.shown
  return ((a * 16 + b) * 16 + c) * 16 + d

/-- The complaint about text that does not start with four hexadecimal digits. -/
def hexError (line column : Nat) (rest : List Symbol) : Error :=
  if rest.foldr (fun x bytes => x.size + bytes) 0 < 4 then
    ⟨.unfinishedString, some (Cursor.placeAfter line column 4 rest)⟩
  else ⟨.badEscape, some (Cursor.placeAfter line column 4 rest)⟩

/-- The character that an escape of one letter stands for. -/
def escaped? (c : Char) : Option Char :=
  match c with
  | '"' => some '"'
  | '\\' => some '\\'
  | '/' => some '/'
  | 'b' => some '\x08'
  | 'f' => some '\x0c'
  | 'n' => some '\n'
  | 'r' => some '\r'
  | 't' => some '\t'
  | _ => none

/-- The end of a string, given its characters in reverse, or nothing if some of its
    bytes are none. -/
def closeString (line column : Nat) (done : Option (List Char)) (rest : List Symbol) :
    Except Error String × Cursor :=
  match done with
  | some done => (.ok (String.ofList done.reverse), ⟨line, column + 1, rest⟩)
  | none => (.error ⟨.noCharacter, some ⟨line, column + 1⟩⟩, ⟨line, column + 1, rest⟩)

/-- Reads a string after its opening quote, given the characters read so far in
    reverse, or nothing if some of the bytes were none. A string lies on one line,
    so only the column moves. -/
def stringBody (line column : Nat) (done : Option (List Char)) :
    List Symbol → Except Error String × Cursor
  | [] => (.error ⟨.unfinishedString, some ⟨line, column⟩⟩, ⟨line, column, []⟩)
  | .stray bytes :: rest => stringBody line (column + bytes) none rest
  | .char x :: rest =>
    if x = '"' then closeString line column done rest
    else if x = '\\' then
      match rest with
      | [] => (.error ⟨.unfinishedString, some ⟨line, column + 1⟩⟩, ⟨line, column + 1, []⟩)
      | e :: rest =>
        if e.shown = 'u' then
          match rest with
          | a :: b :: c :: d :: after =>
            match hexQuad? a b c d with
            | none => (.error (hexError line (column + 2) rest), ⟨line, column, rest⟩)
            | some n =>
              if n < 0xd800 ∨ 0xdfff < n then
                stringBody line (column + 6) (done.map (Char.ofNat n :: ·)) after
              else if 0xdc00 ≤ n then
                (.error ⟨.loneSurrogate, some ⟨line, column + 6⟩⟩, ⟨line, column, after⟩)
              else
                match after with
                | [] => (.error ⟨.unfinishedString, some ⟨line, column + 6⟩⟩, ⟨line, column, []⟩)
                | .char '\\' :: after =>
                  match after with
                  | [] =>
                    (.error ⟨.unfinishedString, some ⟨line, column + 7⟩⟩, ⟨line, column, []⟩)
                  | .char 'u' :: after =>
                    match after with
                    | p :: q :: r :: s :: last =>
                      match hexQuad? p q r s with
                      | none => (.error (hexError line (column + 8) after), ⟨line, column, after⟩)
                      | some m =>
                        if 0xdc00 ≤ m ∧ m ≤ 0xdfff then
                          stringBody line (column + 12) (done.map (surrogatePair n m :: ·)) last
                        else
                          (.error ⟨.loneSurrogate, some ⟨line, column + 12⟩⟩, ⟨line, column, last⟩)
                    | short => (.error (hexError line (column + 8) short), ⟨line, column, short⟩)
                  | other =>
                    (.error ⟨.brokenSurrogatePair,
                      some (Cursor.placeAfter line (column + 7) 1 other)⟩, ⟨line, column, other⟩)
                | other =>
                  (.error ⟨.brokenSurrogatePair,
                    some (Cursor.placeAfter line (column + 6) 1 other)⟩, ⟨line, column, other⟩)
          | short => (.error (hexError line (column + 2) short), ⟨line, column, short⟩)
        else
          match escaped? e.shown with
          | some y => stringBody line (column + 2) (done.map (y :: ·)) rest
          | none =>
            (.error ⟨.badEscape, some (Cursor.placeAfter line (column + 1) 1 (e :: rest))⟩,
              ⟨line, column, rest⟩)
    else if x.toNat < 32 then
      (.error ⟨.controlCharacter, some (Cursor.placeAfter line column 1 (.char x :: rest))⟩,
        ⟨line, column, rest⟩)
    else stringBody line (column + x.utf8Size) (done.map (x :: ·)) rest

/-- Reads a string at its opening quote. -/
def stringToken : Reader String := do
  skip
  fun c => stringBody c.line c.column (some []) c.rest

/-! ### Numbers -/

/-- The greatest whole number that is read exactly. -/
def wordLimit : Nat := Word.size64 - 1

/-- Appends digits to a number as long as it stays within a word: the number,
    how many digits it took, and what follows. -/
def gatherDigits (limit value taken : Nat) : List Symbol → Nat × Nat × List Symbol
  | [] => (value, taken, [])
  | x :: rest =>
    if x.shown.isDigit ∧ value * 10 + (x.shown.toNat - 48) ≤ limit then
      gatherDigits limit (value * 10 + (x.shown.toNat - 48)) (taken + 1) rest
    else (value, taken, x :: rest)

/-- Moves past digits and tells how many there were. -/
def skipDigits : Reader Nat := fun c =>
  let isDigit := fun x : Symbol => x.shown.isDigit
  let digits := c.rest.takeWhile isDigit
  (.ok digits.length, ⟨c.line, c.column + digits.length, c.rest.dropWhile isDigit⟩)

/-- Appends the digits that follow to a number within the limit: the number and
    how many digits it took. -/
def gather (limit value : Nat) : Reader (Nat × Nat) := fun c =>
  let (value, taken, rest) := gatherDigits limit value 0 c.rest
  (.ok (value, taken), ⟨c.line, c.column + taken, rest⟩)

/-- Whether a digit follows. -/
def atDigit : Reader Bool := do return (← next?).any Char.isDigit

/-- Whether an exponent follows. -/
def atExponent : Reader Bool := do return (← next?).any fun c => c == 'e' || c == 'E'

/-- A power of ten up to 308, as the nearest number of 64 bits. -/
def powerOfTen (e : Nat) : Float := Float.ofScientific 1 false e

/-- Divides by ten to a power, by at most `1e308` at a time. -/
def divideByPower (x : Float) (exponent : Nat) : Nat → Float
  | 0 => x
  | rounds + 1 =>
    if exponent ≤ 308 then x / powerOfTen exponent
    else if x == 0 then x
    else divideByPower (x / powerOfTen 308) (exponent - 308) rounds

/-- A number given by its sign, its digits and its power of ten. Digits and
    power are brought together in the arithmetic of 64 bits, each step rounded. -/
def scaled (negative : Bool) (digits : Nat) (exponent : Int) : Reader Number :=
  let x := (UInt64.ofNat digits).toFloat
  let signed (x : Float) : Number := .real (if negative then -x else x)
  if exponent < 0 then pure (signed (divideByPower x exponent.natAbs 4))
  else if exponent ≤ 308 then
    let y := x * powerOfTen exponent.natAbs
    if y.isInf then fail .numberOutOfRange else pure (signed y)
  else if digits = 0 then pure (signed x)
  else fail .numberOutOfRange

/-- The greatest exponent that is read exactly. -/
def exponentLimit : Nat := Word.size31 - 1

/-- Reads an exponent at its letter, after the given digits and power of ten. -/
def exponentPart (negative : Bool) (digits : Nat) (power : Int) : Reader Number := do
  skip
  let sign ← next?
  if sign = some '+' ∨ sign = some '-' then skip
  match ← next? with
  | none => fail .unfinishedValue
  | some x =>
    if !x.isDigit then failAhead .badNumber
    else do
      let (exponent, _) ← gather exponentLimit 0
      if ← atDigit then do
        skip
        if digits ≠ 0 ∧ sign ≠ some '-' then fail .numberOutOfRange
        else do
          let _ ← skipDigits
          pure (.real (if negative then -0.0 else 0.0))
      else scaled negative digits (if sign = some '-' then power - exponent else power + exponent)

/-- Reads an exponent if one follows, after the given digits and power of ten. -/
def exponentPart? (negative : Bool) (digits : Nat) (power : Int) : Reader Number := do
  if ← atExponent then exponentPart negative digits power else scaled negative digits power

/-- Reads a fraction at its point, after the given digits and power of ten. -/
def fractionPart (negative : Bool) (digits : Nat) (power : Int) : Reader Number := do
  skip
  let (digits, taken) ← gather wordLimit digits
  if ← atDigit then do
    let _ ← skipDigits
    exponentPart? negative digits (power - taken)
  else if taken = 0 then do
    match ← next? with
    | some _ => failAhead .badNumber
    | none => failAhead .unfinishedValue
  else exponentPart? negative digits (power - taken)

/-- A whole number that fits a word. A negative one that does not fit is real,
    as is the negative of zero. -/
def wholeNumber (negative : Bool) (digits : Nat) : Number :=
  if !negative then .natural digits
  else if 0 < digits ∧ digits ≤ Word.size63 then .negative digits
  else .real (-(UInt64.ofNat digits).toFloat)

/-- Reads what follows the whole part of a number. -/
def afterWhole (negative : Bool) (digits : Nat) : Reader Number := do
  if (← next?) = some '.' then fractionPart negative digits 0
  else if ← atExponent then exponentPart negative digits 0
  else pure (wholeNumber negative digits)

/-- Reads a number after its sign. -/
def numberToken (negative : Bool) : Reader Number := do
  match ← next? with
  | none => fail .unfinishedValue
  | some x =>
    if x = '0' then do
      skip
      if ← atDigit then failAhead .badNumber else afterWhole negative 0
    else if x.isDigit then do
      let (digits, _) ← gather wordLimit 0
      if ← atDigit then do
        let dropped ← skipDigits
        if (← next?) = some '.' then fractionPart negative digits dropped
        else exponentPart? negative digits dropped
      else afterWhole negative digits
    else failAhead .badNumber

/-- Reads a literal, a number or a string, given how it begins; nothing is read
    of an array or object, and anything else is no value. -/
def scalar? (first : Char) : Reader (Option Value) := do
  if first = 'n' then do
    skip
    literal ['u', 'l', 'l']
    return some .null
  else if first = 't' then do
    skip
    literal ['r', 'u', 'e']
    return some (.bool true)
  else if first = 'f' then do
    skip
    literal ['a', 'l', 's', 'e']
    return some (.bool false)
  else if first = '"' then return some (.string (← stringToken))
  else if first = '-' then do
    skip
    return some (.number (← numberToken true))
  else if first.isDigit then return some (.number (← numberToken false))
  else if first = '[' ∨ first = '\x7b' then return none
  else failAhead .noValue

/-- The first character of a value. -/
def valueStart : Reader Char := do
  match ← peek with
  | some x => pure x
  | none => failAhead .unfinishedValue

/-! ### Arrays and objects -/

/-- Reads the end of an array. -/
def arrayEnd : Reader Unit := do
  match ← peek with
  | some ']' => skip
  | some ',' => do
    skip
    match ← peek with
    | some ']' => failAhead .trailingComma
    | _ => failAhead .trailingCharacters
  | some _ => failAhead .trailingCharacters
  | none => failAhead .unfinishedArray

/-- Reads the end of an object. -/
def objectEnd : Reader Unit := do
  match ← peek with
  | some '\x7d' => skip
  | some ',' => failAhead .trailingComma
  | some _ => failAhead .trailingCharacters
  | none => failAhead .unfinishedObject

/-- Reads an array or object from its opening bracket: what is inside, then the
    end, even if the inside failed. The first failure counts, and one that has
    no place yet is placed where the end was looked for. -/
def enclosed {α : Type} (body : Reader α) (close : Reader Unit) : Reader α := placed fun c =>
  match body c.advance with
  | (.ok a, c) =>
    match close c with
    | (.ok (), c) => (.ok a, c)
    | (.error e, c) => (.error e, c)
  | (.error e, c) => (.error e, (close c).2)

/-- Reads what an array or object holds if there is room for one more level. -/
def nested {α : Type} (room : Nat) (inside : Nat → Reader α) : Reader α :=
  match room with
  | 0 => failAhead .tooDeep
  | room + 1 => inside room

/-- Tells whether another item follows in an array. -/
def nextItem (first : Bool) : Reader Bool := do
  match ← peek with
  | some ']' => pure false
  | some x =>
    if first then pure true
    else if x = ',' then do
      skip
      match ← peek with
      | some ']' => failAhead .trailingComma
      | some _ => pure true
      | none => failAhead .unfinishedValue
    else failAhead .noCommaOrArrayEnd
  | none => failAhead .unfinishedArray

/-- Reads the key of the next member of an object, if one follows. -/
def nextKey (first : Bool) : Reader (Option String) := do
  match ← peek with
  | some '\x7d' => pure none
  | some x =>
    if first then
      if x = '"' then some <$> stringToken else failAhead .keyNotString
    else if x = ',' then do
      skip
      match ← peek with
      | some '"' => some <$> stringToken
      | some '\x7d' => failAhead .trailingComma
      | some _ => failAhead .keyNotString
      | none => failAhead .unfinishedValue
    else failAhead .noCommaOrObjectEnd
  | none => failAhead .unfinishedObject

/-- Reads the colon after a key. -/
def colon : Reader Unit := do
  match ← peek with
  | some ':' => skip
  | some _ => failAhead .noColon
  | none => failAhead .unfinishedObject

/-- Reads the items of an array in at most so many rounds. -/
def itemsWithin {α : Type} (item : Reader α) : Nat → Bool → List α → Reader (List α)
  | 0, _, _ => failAhead .unfinishedArray
  | rounds + 1, first, done => do
    if ← nextItem first then do
      let a ← item
      itemsWithin item rounds false (a :: done)
    else pure done.reverse

/-- Reads the items of an array. -/
def items {α : Type} (item : Reader α) : Reader (List α) := do
  itemsWithin item ((← remaining) + 1) true []

/-- Reads the members of an object in at most so many rounds. -/
def membersWithin {σ : Type} (member : σ → String → Reader σ) : Nat → Bool → σ → Reader σ
  | 0, _, _ => failAhead .unfinishedObject
  | rounds + 1, first, s => do
    match ← nextKey first with
    | some key => do
      let s ← member s key
      membersWithin member rounds false s
    | none => pure s

/-- Reads the members of an object, each with its key already read. -/
def members {σ : Type} (member : σ → String → Reader σ) (s : σ) : Reader σ := do
  membersWithin member ((← remaining) + 1) true s

/-! ### Documents -/

/-- Reads any document, of at most so many levels. -/
def value : Nat → Reader Value
  | 0 => do
    match ← scalar? (← valueStart) with
    | some v => pure v
    | none => failAhead .tooDeep
  | room + 1 => do
    let first ← valueStart
    match ← scalar? first with
    | some v => pure v
    | none =>
      if first = '[' then enclosed (do return .array (← items (value room))) arrayEnd
      else
        enclosed (do
          let read ← members (fun done key => do
            colon
            let v ← value room
            return (key, v) :: done) []
          return .object read.reverse) objectEnd

/-- The levels of arrays and objects that a document may have. -/
def levels : Nat := 127

/-- Reads to the end of the text, where nothing but blanks may follow. -/
def atEnd : Reader Unit := do
  match ← peek with
  | some _ => failAhead .trailingCharacters
  | none => pure ()

/-- Reads a whole text, and checks what was read before the text that follows. -/
def runChecked {α β ε : Type} (r : Reader α) (ofError : Error → ε) (check : α → Except ε β)
    (s : String) : Except ε β :=
  match r (Cursor.start s) with
  | (.error e, _) => .error (ofError e)
  | (.ok a, c) =>
    match check a with
    | .error e => .error e
    | .ok b =>
      match (atEnd c).1 with
      | .error e => .error (ofError e)
      | .ok () => .ok b

/-- Reads a whole text. -/
def run {α : Type} (r : Reader α) (s : String) : Except Error α := r.runChecked id .ok s

end Reader

/-- Reads a document from a text that holds nothing else. -/
def Value.parse (s : String) : Except Error Value := (Reader.value Reader.levels).run s

end LoginGate.Json
