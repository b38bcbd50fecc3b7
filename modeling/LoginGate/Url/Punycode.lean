/-!
# Punycode

Names in ASCII for names that are not: the ASCII characters of a name as they
are, and after a hyphen the others, in the order of their code points. For each
of them a number tells how far to move on through all places and code points
before inserting it. Numbers are written with digits of base 36, the least first,
and a threshold for each digit tells which digit is the last; the thresholds
adapt to the numbers seen.
-/

namespace LoginGate.Url.Punycode

/-- The character of a digit below 36. -/
def digit (d : Nat) : Char := Char.ofNat (if d < 26 then 97 + d else 22 + d)

/-- The value of a digit. -/
def digit? (c : Char) : Option Nat :=
  if 'a' ≤ c ∧ c ≤ 'z' then some (c.toNat - 97)
  else if 'A' ≤ c ∧ c ≤ 'Z' then some (c.toNat - 65)
  else if '0' ≤ c ∧ c ≤ '9' then some (c.toNat - 22)
  else none

/-- The threshold of the digit at a place, which counts in steps of 36. -/
def threshold (place bias : Nat) : Nat := min 26 (max 1 (place - bias))

theorem threshold_pos (place bias : Nat) : 1 ≤ threshold place bias := by
  unfold threshold; omega

/-- How often a number has to be divided to become small, in steps of 36, and
    what becomes of it. -/
def shrink (delta steps : Nat) : Nat × Nat :=
  if 455 < delta then shrink (delta / 35) (steps + 36) else (delta, steps)
termination_by delta

/-- The bias after a number, given how many characters there are by then. -/
def adapt (delta count : Nat) (first : Bool) : Nat :=
  let delta := if first then delta / 700 else delta / 2
  let (delta, steps) := shrink (delta + delta / count) 0
  steps + 36 * delta / (delta + 38)

/-- The digits of a number, from the digit at a place on. -/
def digits (bias place n : Nat) : List Char :=
  let t := threshold place bias
  if n < t then [digit n]
  else digit (t + (n - t) % (36 - t)) :: digits bias (place + 36) ((n - t) / (36 - t))
termination_by n
decreasing_by
  have := threshold_pos place bias
  calc (n - threshold place bias) / (36 - threshold place bias)
      ≤ n - threshold place bias := Nat.div_le_self _ _
    _ < n := by omega

/-- Reads a number from the digit at a place on: the number and what follows. -/
def number? (bias : Nat) : List Char → Nat → Nat → Nat → Option (Nat × List Char)
  | [], _, _, _ => none
  | c :: rest, place, weight, value => do
    let d ← digit? c
    let t := threshold place bias
    if d < t then some (value + d * weight, rest)
    else number? bias rest (place + 36) (weight * (36 - t)) (value + d * weight)

/-! ### Writing -/

/-- What has been written so far. -/
structure Writing where
  /-- The digits. -/
  written : List Char
  /-- How far to move on. -/
  delta : Nat
  /-- The bias. -/
  bias : Nat
  /-- How many characters are done. -/
  done : Nat

/-- Passes a character on the way through the places for a code point. -/
def Writing.pass (basics code : Nat) (w : Writing) (c : Char) : Writing :=
  if c.toNat < code then { w with delta := w.delta + 1 }
  else if c.toNat = code then
    ⟨w.written ++ digits w.bias 36 w.delta, 0, adapt w.delta (w.done + 1) (w.done == basics),
      w.done + 1⟩
  else w

/-- Passes all places for each of some code points in ascending order. -/
def writeCodes (name : List Char) (basics : Nat) : List Nat → Nat → Writing → Writing
  | [], _, w => w
  | code :: codes, next, w =>
    let w := { w with delta := w.delta + (code - next) * (w.done + 1) }
    let w := name.foldl (Writing.pass basics code) w
    writeCodes name basics codes (code + 1) { w with delta := w.delta + 1 }

/-- The ASCII form of a name. -/
def encode (name : List Char) : List Char :=
  let basic := name.filter (·.toNat < 128)
  let codes := ((name.filter (128 ≤ ·.toNat)).map Char.toNat).mergeSort.eraseReps
  let w := writeCodes name basic.length codes 128 ⟨[], 0, 72, basic.length⟩
  basic ++ (if basic.isEmpty then [] else ['-']) ++ w.written

/-! ### Reading -/

/-- Reads the characters that are inserted, in at most so many rounds. -/
def insertCodes : Nat → List Char → Nat → Nat → Nat → List Char → Option (List Char)
  | 0, _, _, _, _, _ => none
  | rounds + 1, text, code, place, bias, name =>
    if text.isEmpty then some name
    else do
      let (moved, rest) ← number? bias text 36 1 place
      let count := name.length + 1
      let code := code + moved / count
      let spot := moved % count
      if code.isValidChar then
        insertCodes rounds rest code (spot + 1) (adapt (moved - place) count (place == 0))
          (name.insertIdx spot (Char.ofNat code))
      else none

/-- The last hyphen cuts the ASCII characters from the rest. -/
def cutLastHyphen (text : List Char) : List Char × List Char :=
  let rest := (text.reverse.takeWhile (· ≠ '-')).reverse
  (text.take (text.length - rest.length - 1), rest)

/-- The name of an ASCII form. -/
def decode? (text : List Char) : Option (List Char) :=
  let (basic, rest) := cutLastHyphen text
  if basic.all (·.toNat < 128) then insertCodes (rest.length + 1) rest 128 0 72 basic else none

end LoginGate.Url.Punycode
