import LoginGate.Json.Reader

/-!
# Passing over a value

A value that nobody asked for is passed over without being kept: it may be
nested to any depth, its numbers may have any size, and its strings may contain
halves of surrogate pairs. The brackets that are still open are kept on a
stack, innermost first. Nor does it matter whether the bytes of a string are
characters.
-/

namespace LoginGate.Json.Reader

open Text (Symbol)

/-- A kind of bracket. -/
inductive Bracket where
  | square
  | curly
deriving DecidableEq

namespace Bracket

/-- The closing bracket. -/
def closing : Bracket → Char
  | .square => ']'
  | .curly => '\x7d'

/-- The complaint about a text that ends before the closing bracket. -/
def unfinished : Bracket → Cause
  | .square => .unfinishedArray
  | .curly => .unfinishedObject

/-- The complaint about text that is neither a comma nor the closing bracket. -/
def noCommaOrEnd : Bracket → Cause
  | .square => .noCommaOrArrayEnd
  | .curly => .noCommaOrObjectEnd

end Bracket

/-- Passes over a string after its opening quote. -/
def passString (line column : Nat) : List Symbol → Except Error Unit × Cursor
  | [] => (.error ⟨.unfinishedString, some ⟨line, column⟩⟩, ⟨line, column, []⟩)
  | .stray bytes :: rest => passString line (column + bytes) rest
  | .char x :: rest =>
    if x = '"' then (.ok (), ⟨line, column + 1, rest⟩)
    else if x = '\\' then
      match rest with
      | [] => (.error ⟨.unfinishedString, some ⟨line, column + 1⟩⟩, ⟨line, column + 1, []⟩)
      | e :: rest =>
        if e.shown = 'u' then
          match rest with
          | a :: b :: c :: d :: after =>
            if (hexQuad? a b c d).isSome then passString line (column + 6) after
            else (.error (hexError line (column + 2) rest), ⟨line, column, rest⟩)
          | short => (.error (hexError line (column + 2) short), ⟨line, column, short⟩)
        else if (escaped? e.shown).isSome then passString line (column + 2) rest
        else
          (.error ⟨.badEscape, some (Cursor.placeAfter line (column + 1) 1 (e :: rest))⟩,
            ⟨line, column, rest⟩)
    else if x.toNat < 32 then
      (.error ⟨.controlCharacter, some (Cursor.placeAfter line column 1 (.char x :: rest))⟩,
        ⟨line, column, rest⟩)
    else passString line (column + x.utf8Size) rest

/-- Passes over a string at its opening quote. -/
def passStringToken : Reader Unit := do
  skip
  fun c => passString c.line c.column c.rest

/-- Passes over an exponent at its letter. -/
def passExponent : Reader Unit := do
  skip
  let sign ← next?
  if sign = some '+' ∨ sign = some '-' then skip
  match ← next? with
  | none => fail .badNumber
  | some _ => do
    if ← atDigit then do
      let _ ← skipDigits
    else failAhead .badNumber

/-- Passes over what follows the whole part of a number. -/
def passAfterWhole : Reader Unit := do
  if (← next?) = some '.' then do
    skip
    let digits ← skipDigits
    if digits = 0 then failAhead .badNumber
    else if ← atExponent then passExponent
  else if ← atExponent then passExponent

/-- Passes over a number after its sign. -/
def passNumber : Reader Unit := do
  match ← next? with
  | none => fail .badNumber
  | some x =>
    if x = '0' then do
      skip
      if ← atDigit then failAhead .badNumber else passAfterWhole
    else if x.isDigit then do
      let _ ← skipDigits
      passAfterWhole
    else failAhead .badNumber

/-- Passes over a literal, a number or a string; for an array or object, passes
    over its opening bracket and tells its kind. -/
def passScalar? : Reader (Option Bracket) := do
  let first ← valueStart
  if first = '[' then do
    skip
    return some .square
  else if first = '\x7b' then do
    skip
    return some .curly
  else if first = '"' then do
    passStringToken
    return none
  else if first = '-' then do
    skip
    passNumber
    return none
  else if first.isDigit then do
    passNumber
    return none
  else do
    let _ ← scalar? first
    return none

/-- Passes over the key of a member and its colon. -/
def passKey : Reader Unit := do
  match ← peek with
  | some '"' => passStringToken
  | some _ => failAhead .keyNotString
  | none => failAhead .unfinishedObject
  colon

/-- What passing over expects next. -/
inductive Awaited where
  /-- A value. -/
  | value
  /-- Inside brackets, a comma if one may stand there, a value, or the end. -/
  | inside (comma : Bool)

/-- Passes over values in at most so many rounds, with the brackets that are
    still open. -/
def passWithin : Nat → Awaited → List Bracket → Reader Unit
  | 0, _, _ => failAhead .unfinishedValue
  | rounds + 1, .value, stack => do
    match ← passScalar? with
    | some b => passWithin rounds (.inside false) (b :: stack)
    | none => if stack.isEmpty then pure () else passWithin rounds (.inside true) stack
  | _ + 1, .inside _, [] => pure ()
  | rounds + 1, .inside comma, b :: stack => do
    match ← peek with
    | none => failAhead b.unfinished
    | some x =>
      if x = b.closing then do
        skip
        if stack.isEmpty then pure () else passWithin rounds (.inside true) stack
      else if comma ∧ x ≠ ',' then failAhead b.noCommaOrEnd
      else do
        if comma then skip
        if b = .curly then passKey
        passWithin rounds .value (b :: stack)

/-- Passes over one value. A round that consumes nothing is followed by one
    that does, hence the number of rounds. -/
def pass : Reader Unit := do
  passWithin (2 * (← remaining) + 2) .value []

end LoginGate.Json.Reader
