import LoginGate.Text.Blank

/-!
# Principals

Who logs in. A principal is given by a text that is not blank, and most of it
is opaque; only the session stores look inside (`Principal.qualified`).
-/

namespace LoginGate

/-- Why a text is no principal. -/
inductive PrincipalError where
  /-- The text is empty or blank. -/
  | blank
deriving DecidableEq, Repr

/-- The error in words. -/
def PrincipalError.message : PrincipalError → String
  | .blank => "Principal identifier must not be empty"

/-- The subject of a login. -/
structure Principal where
  /-- The text that identifies the subject. -/
  text : String
  /-- The text shows something. -/
  not_blank : Text.isBlankText text = false
deriving DecidableEq

namespace Principal

/-- The principal with the given text. -/
def ofText (text : String) : Except PrincipalError Principal :=
  if h : Text.isBlankText text = false then .ok ⟨text, h⟩ else .error .blank

/-- A principal is read back from its text. -/
@[simp] theorem ofText_text (p : Principal) : ofText p.text = .ok p := dif_pos p.not_blank

theorem text_of_ofText {text : String} {p : Principal} (h : ofText text = .ok p) :
    p.text = text := by
  rw [ofText] at h
  split at h
  · exact congrArg Principal.text (Except.ok.inj h).symm
  · cases h

end Principal

end LoginGate
