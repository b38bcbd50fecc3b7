import LoginGate.Text.Numeral
import LoginGate.Text.Quoted

/-!
# Session limits

The setting of the policy: how many sessions a principal may hold. A limit is
at least one and fits a word of 32 bits. It is written as a numeral, with any
leading zeros and a plus sign if one likes, and read back from the text that it
is shown as.
-/

namespace LoginGate

/-- The attribute that holds the limit. -/
def limitAttribute : String := "sessionLimit"

/-- Why a setting is no limit. -/
inductive LimitError where
  /-- There is no setting. -/
  | missing
  /-- The setting is no numeral of a signed word of 64 bits. -/
  | notInteger (text : String)
  /-- The setting is zero or negative. -/
  | notPositive (value : Int)
  /-- The setting does not fit a word of 32 bits. -/
  | tooLarge (value : Int)
  /-- The limit is given as the number zero. -/
  | zero
deriving DecidableEq, Repr

/-- What is wrong with the setting, in words. -/
def LimitError.reason : LimitError → String
  | .missing => "missing " ++ limitAttribute
  | .notInteger text => limitAttribute ++ " is not an integer: " ++ Text.quoted text
  | .notPositive value =>
    limitAttribute ++ " must be positive, got " ++ String.ofList (Text.decimalInt value)
  | .tooLarge value => limitAttribute ++ " is too large: " ++ String.ofList (Text.decimalInt value)
  | .zero => "session limit must be positive"

/-- A number of sessions that a principal may hold. -/
structure SessionLimit where
  /-- The number. -/
  value : Nat
  /-- There is room for a session. -/
  pos : 0 < value
  /-- The number fits a word of 32 bits. -/
  lt_word : value < Word.size32
deriving DecidableEq

namespace SessionLimit

/-- The limit given as a number. -/
def ofNat (n : Nat) : Except LimitError SessionLimit :=
  if hn : n < Word.size32 then
    if hp : 0 < n then .ok ⟨n, hp, hn⟩ else .error .zero
  else .error (.tooLarge n)

/-- The limit given as the text of a setting. -/
def parse (setting : Option String) : Except LimitError SessionLimit :=
  match setting with
  | none => .error .missing
  | some text =>
    match Text.signed64? text.toList with
    | none => .error (.notInteger text)
    | some value => if value ≤ 0 then .error (.notPositive value) else ofNat value.toNat

/-- The text of a limit. -/
def text (limit : SessionLimit) : String := Text.numeral limit.value

theorem ofNat_value (limit : SessionLimit) : ofNat limit.value = .ok limit := by
  rw [ofNat, dif_pos limit.lt_word, dif_pos limit.pos]

/-- A limit is read back from its text. -/
@[simp] theorem parse_text (limit : SessionLimit) : parse (some limit.text) = .ok limit := by
  have hfits : limit.value < Word.size63 := Nat.lt_trans limit.lt_word (by decide)
  have hpos : ¬Int.ofNat limit.value ≤ 0 := by
    have := limit.pos
    simp only [Int.ofNat_eq_natCast]
    omega
  rw [parse]
  rw [text, Text.toList_numeral, Text.signed64?_decimal hfits]
  exact (if_neg hpos).trans limit.ofNat_value

end SessionLimit

end LoginGate
