/-!
# Shortest decimals

The fewest decimal digits that read back as a given binary number of 64 bits.
The number is taken apart as a fraction; the decimals that read back as it are
those in the interval of the reals that round to it, whose ends belong to it
exactly when the significand is even. Counting digits upward, the first grid
of decimals with a point in that interval gives the answer: of its two points
around the number, the one that lies inside, or the nearer if both do.

* `Rounding.admits_of_shortestFrom?`: what is found reads back.
-/

namespace LoginGate.Decimal

/-- A positive fraction together with the interval of the reals that round to
    it, all three over one denominator. -/
structure Rounding where
  /-- The lower end of the interval. -/
  low : Nat
  /-- The number itself. -/
  middle : Nat
  /-- The upper end of the interval. -/
  high : Nat
  /-- The common denominator. -/
  unit : Nat
  /-- Whether the ends belong to the interval. -/
  closed : Bool

/-- A decimal: `digits` times ten to the power `exponent`. -/
structure Scientific where
  /-- The digits, as a number. -/
  digits : Nat
  /-- The power of ten. -/
  exponent : Int
deriving DecidableEq, Repr

namespace Rounding

/-- The magnitude of a finite number of 64 bits. A number that is a power of
    two has a lower neighbour at half the distance of the upper one. -/
def ofFloat (x : Float) : Rounding :=
  let bits := x.toBits.toNat
  let biased := bits / Nat.pow 2 52 % Nat.pow 2 11
  let fraction := bits % Nat.pow 2 52
  let significand := if biased = 0 then fraction else fraction + Nat.pow 2 52
  -- quarters of a unit in the last place: `significand` times two to the power `max biased 1 - 1075`
  let below := if fraction = 0 ∧ 1 < biased then 1 else 2
  let scale := if 1077 ≤ max biased 1 then Nat.pow 2 (max biased 1 - 1077) else 1
  let unit := if 1077 ≤ max biased 1 then 1 else Nat.pow 2 (1077 - max biased 1)
  { low := (4 * significand - below) * scale, middle := 4 * significand * scale,
    high := (4 * significand + 2) * scale, unit, closed := significand % 2 = 0 }

/-- A decimal as a fraction. -/
def fraction (d : Scientific) : Nat × Nat :=
  if 0 ≤ d.exponent then (d.digits * Nat.pow 10 d.exponent.toNat, 1)
  else (d.digits, Nat.pow 10 (-d.exponent).toNat)

/-- Whether a decimal reads back as the number. -/
def admits (r : Rounding) (d : Scientific) : Bool :=
  let (p, q) := fraction d
  if r.closed then r.low * q ≤ p * r.unit && p * r.unit ≤ r.high * q
  else r.low * q < p * r.unit && p * r.unit < r.high * q

/-- How far a decimal lies from the number, in a unit that depends on the
    decimal's exponent only. -/
def distance (r : Rounding) (d : Scientific) : Nat :=
  let (p, q) := fraction d
  (p * r.unit - r.middle * q) + (r.middle * q - p * r.unit)

/-- The power of ten of the number's first digit. -/
def magnitude (r : Rounding) : Int :=
  if r.unit ≤ r.middle then (Nat.toDigits 10 (r.middle / r.unit)).length - 1
  else
    let n := (Nat.toDigits 10 (r.unit / r.middle)).length
    if r.unit ≤ r.middle * Nat.pow 10 (n - 1) then 1 - n else -n

/-- The grid point at or below the number, for the given exponent. -/
def floor (r : Rounding) (exponent : Int) : Nat :=
  if 0 ≤ exponent then r.middle / (r.unit * Nat.pow 10 exponent.toNat)
  else r.middle * Nat.pow 10 (-exponent).toNat / r.unit

/-- The decimal on the grid with the given exponent that reads back as the
    number, the nearer one if there are two. -/
def onGrid? (r : Rounding) (exponent : Int) : Option Scientific :=
  let below : Scientific := ⟨r.floor exponent, exponent⟩
  let above : Scientific := ⟨r.floor exponent + 1, exponent⟩
  if r.admits below then
    if r.admits above && r.distance above < r.distance below then some above else some below
  else if r.admits above then some above else none

/-- The first decimal that reads back, with one digit more at each attempt. -/
def shortestFrom? (r : Rounding) (digits : Nat) : Nat → Option Scientific
  | 0 => none
  | attempts + 1 =>
    match r.onGrid? (r.magnitude - digits + 1) with
    | some d => some d
    | none => r.shortestFrom? (digits + 1) attempts

/-- The shortest decimal of at most seventeen digits that reads back. -/
def shortest? (r : Rounding) : Option Scientific := r.shortestFrom? 1 17

theorem admits_of_onGrid? {r : Rounding} {e : Int} {d : Scientific} (h : r.onGrid? e = some d) :
    r.admits d := by
  simp only [onGrid?] at h
  split at h
  · split at h <;> simp_all
  · split at h <;> simp_all

/-- What is found reads back as the number. -/
theorem admits_of_shortestFrom? {r : Rounding} {n k : Nat} {d : Scientific}
    (h : r.shortestFrom? n k = some d) : r.admits d := by
  induction k generalizing n with
  | zero => simp [shortestFrom?] at h
  | succ k ih =>
    simp only [shortestFrom?] at h
    split at h
    · next hg => cases h; exact admits_of_onGrid? hg
    · exact ih h

end Rounding

/-- The digits of a decimal without trailing zeros, and the position of the
    decimal point counted from the first digit. -/
def Scientific.normalize (d : Scientific) : List Char × Int :=
  let all := Nat.toDigits 10 d.digits
  let digits := (all.reverse.dropWhile (· == '0')).reverse
  (digits, all.length + d.exponent)

end LoginGate.Decimal
