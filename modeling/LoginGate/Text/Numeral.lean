/-!
# Numerals

Reading whole numbers written in ASCII digits: one or more digits with any
number of leading zeros, and a sign in front where one is admitted. Nothing
else is accepted: no blanks, no separators, no other digits. A number fits a
machine word exactly when it is below the size of the word.

Numbers are written in their digits, and spans of time in words: in the greatest of
the units second and millisecond that they fill, with as many decimals as they need.
-/

namespace LoginGate.Word

/-- The size of a word of 16 bits. -/
def size16 : Nat := 65536

/-- What the magnitudes in a signed word of 32 bits stay below, but for that of
    its least number. -/
def size31 : Nat := 2147483648

/-- The size of a word of 32 bits. -/
def size32 : Nat := 4294967296

/-- What the magnitudes in a signed word of 64 bits stay below, but for that of
    its least number. -/
def size63 : Nat := 9223372036854775808

/-- The size of a word of 64 bits. -/
def size64 : Nat := 18446744073709551616

theorem one_lt_size32 : 1 < size32 := by decide

end LoginGate.Word

namespace LoginGate.Text

/-- The number that a run of decimal digits writes. -/
def digitsValue (ds : List Char) : Nat := Nat.ofDigitChars 10 ds 0

/-- Reads one or more digits. -/
def digits? (ds : List Char) : Option Nat :=
  if !ds.isEmpty && ds.all Char.isDigit then some (digitsValue ds) else none

/-- Reads a numeral without sign or with a plus sign. -/
def unsigned? : List Char → Option Nat
  | '+' :: ds => digits? ds
  | ds => digits? ds

/-- Reads a numeral with an optional sign. -/
def signed? : List Char → Option Int
  | '+' :: ds => (digits? ds).map Int.ofNat
  | '-' :: ds => (digits? ds).map fun n => -Int.ofNat n
  | ds => (digits? ds).map Int.ofNat

/-- Reads a numeral of at most `bound`. -/
def unsignedUpTo? (bound : Nat) (s : List Char) : Option Nat :=
  (unsigned? s).filter (· ≤ bound)

/-- Reads a numeral that fits a signed word of 64 bits. -/
def signed64? (s : List Char) : Option Int :=
  (signed? s).filter fun n => -Int.ofNat Word.size63 ≤ n && n < Int.ofNat Word.size63

/-- The digits that write a number, without leading zeros. -/
def decimal (n : Nat) : List Char := Nat.toDigits 10 n

/-- The text of a number. -/
def numeral (n : Nat) : String := String.ofList (decimal n)

/-- The digits of an integer after its sign. -/
def decimalInt : Int → List Char
  | .ofNat n => decimal n
  | .negSucc n => '-' :: decimal (n + 1)

/-- The three decimals of a number of thousandths, as far as they are needed. -/
def thousandths (n : Nat) : List Char :=
  let digits := [n / 100 % 10, n / 10 % 10, n % 10].map Nat.digitChar
  (digits.reverse.dropWhile (· == '0')).reverse

/-- A number of milliseconds in words. -/
def span (milliseconds : Nat) : String :=
  if milliseconds = 0 then "0ns"
  else if milliseconds < 1000 then numeral milliseconds ++ "ms"
  else
    let decimals := match thousandths (milliseconds % 1000) with
      | [] => []
      | digits => '.' :: digits
    String.ofList (decimal (milliseconds / 1000) ++ decimals) ++ "s"

/-! ### There and back -/

@[simp] theorem digitsValue_decimal (n : Nat) : digitsValue (decimal n) = n :=
  Nat.ofDigitChars_toDigits (by decide) (by decide)

theorem isDigit_of_mem_decimal {n : Nat} {c : Char} (h : c ∈ decimal n) : c.isDigit :=
  Nat.isDigit_of_mem_toDigits (by decide) (by decide) h

theorem decimal_ne_nil (n : Nat) : decimal n ≠ [] := by
  simp [decimal, Nat.toDigits_ne_nil]

@[simp] theorem toList_numeral (n : Nat) : (numeral n).toList = decimal n := by simp [numeral]

/-- Reading undoes writing. -/
@[simp] theorem digits?_decimal (n : Nat) : digits? (decimal n) = some n := by
  rw [digits?, if_pos, digitsValue_decimal]
  simp only [Bool.and_eq_true, Bool.not_eq_true', List.isEmpty_eq_false_iff, List.all_eq_true]
  exact ⟨decimal_ne_nil n, fun _ => isDigit_of_mem_decimal⟩

/-- A number is written without a sign. -/
@[simp] theorem signed?_decimal (n : Nat) : signed? (decimal n) = some (Int.ofNat n) := by
  have hdigit : ∀ c ∈ decimal n, c.isDigit := fun _ => isDigit_of_mem_decimal
  rw [signed?.eq_def]
  split
  · next h => exact absurd (hdigit '+' (h ▸ List.mem_cons_self)) (by decide)
  · next h => exact absurd (hdigit '-' (h ▸ List.mem_cons_self)) (by decide)
  · rw [digits?_decimal, Option.map_some]

theorem signed64?_decimal {n : Nat} (h : n < Word.size63) :
    signed64? (decimal n) = some (Int.ofNat n) := by
  rw [signed64?, signed?_decimal, Option.filter_some, if_pos]
  simp only [Bool.and_eq_true, decide_eq_true_eq, Int.ofNat_eq_natCast]
  omega

end LoginGate.Text
