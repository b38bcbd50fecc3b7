import LoginGate.Http.Message
import LoginGate.Policy.Evaluation
import LoginGate.Text.Blank

/-!
# The service and who may administer it

What the service answers requests from, and the token that opens its
administration: a request carries it in its authorization header as a bearer
token. A service without a token has its administration closed, and so has one
whose token no header can carry.
-/

namespace LoginGate

/-- A service over a state `σ`. -/
structure Api (σ : Type) where
  /-- Where the sessions are registered. -/
  registry : Registry σ
  /-- How sessions are closed, unless they can only be read. -/
  terminator : Option (Terminator σ)
  /-- The limit for requests that do not give one. -/
  defaultLimit : SessionLimit
  /-- The token of the administration, if it is open. -/
  adminToken : Option String

namespace Api

variable {σ : Type}

/-- Whether something is there, in words. -/
def presence {α : Type} (o : Option α) : String := if o.isSome then "true" else "false"

/-- The setup of the service on one line, without its secrets. -/
def summary (api : Api σ) : String :=
  "AppState \x7b terminator: " ++ presence api.terminator ++ ", default_limit: SessionLimit(" ++
    api.defaultLimit.text ++ "), admin_token: " ++ presence api.adminToken ++ ", .. \x7d"

/-- The token in the text of an authorization header. -/
def bearerToken? (value : List Char) : Option (List Char) :=
  let value := Text.trim value
  (Text.after? "Bearer ".toList value <|> Text.after? "bearer ".toList value).map Text.trim

/-- The bits in which strings of bytes differ, as far as both reach. Every byte is
    compared, wherever the first difference is. -/
def difference (given expected : List UInt8) : UInt8 :=
  (given.zip expected).foldl (fun diff pair => diff ||| (pair.1 ^^^ pair.2)) 0

/-- Whether the bytes of a token are the expected ones. -/
def tokensMatch (given expected : List UInt8) : Bool :=
  if given.length ≠ expected.length then false else difference given expected == 0

/-- Whether a request with the given headers may administer the service. -/
def authorizes (api : Api σ) (headers : List Http.Header) : Bool :=
  match api.adminToken, (Http.Header.firstText? "authorization" headers).bind bearerToken? with
  | some expected, some given => tokensMatch (Text.utf8 (String.ofList given)) (Text.utf8 expected)
  | _, _ => false

/-- Bits that are set stay set, so nothing differs in the end only if nothing
    differed anywhere. -/
theorem foldl_difference_eq_zero_iff {given expected : List UInt8}
    (h : given.length = expected.length) {diff : UInt8} :
    (given.zip expected).foldl (fun diff pair => diff ||| (pair.1 ^^^ pair.2)) diff = 0 ↔
      diff = 0 ∧ given = expected := by
  induction given generalizing expected diff with
  | nil => simp [List.length_eq_zero_iff.1 h.symm]
  | cons a given ih =>
    cases expected with
    | nil => cases h
    | cons b expected =>
      rw [List.zip_cons_cons, List.foldl_cons, ih (Nat.succ.inj h), UInt8.or_eq_zero_iff,
        UInt8.xor_eq_zero_iff, List.cons.injEq, and_assoc]

/-- Only equal tokens match. -/
@[simp] theorem tokensMatch_iff {given expected : List UInt8} :
    tokensMatch given expected = true ↔ given = expected := by
  rw [tokensMatch]
  split
  · next hlength => exact ⟨nofun, fun h => absurd (congrArg List.length h) hlength⟩
  · next hlength =>
    rw [beq_iff_eq, difference, foldl_difference_eq_zero_iff (Decidable.of_not_not hlength),
      and_iff_right rfl]

end Api

end LoginGate
