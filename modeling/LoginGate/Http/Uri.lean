import LoginGate.Text.Split

/-!
# Targets of connections

Which texts beginning with `http://` or `https://` can be connected to. After the
scheme comes an authority, which is not empty and has at most one port after
its host, then a path and a query of characters that need no encoding.
-/

namespace LoginGate.Http

/-- Why a text cannot be connected to. -/
inductive UriError where
  /-- Nothing follows the scheme. -/
  | empty
  /-- A character may not stand where it stands. -/
  | badCharacter
  /-- The authority is malformed. -/
  | badAuthority
  /-- There is no authority. -/
  | badFormat
  /-- The text is too long. -/
  | tooLong
deriving DecidableEq, Repr

/-- The error in words. -/
def UriError.message : UriError → String
  | .empty => "empty string"
  | .badCharacter => "invalid uri character"
  | .badAuthority => "invalid authority"
  | .badFormat => "invalid format"
  | .tooLong => "uri too long"

/-- Whether a character may stand in an authority. -/
def isAuthorityChar (c : Char) : Bool :=
  c.isAlphanum || "!$&'()*+,-.:;=@[]_~%".toList.contains c

/-- What was seen in an authority so far. -/
structure AuthorityScan where
  /-- The colons since the last `@` or closing bracket. -/
  colons : Nat
  /-- Whether a bracket was opened. -/
  opened : Bool
  /-- Whether it was closed. -/
  closed : Bool
  /-- Whether there was a percent sign since the last `@` or closing bracket. -/
  percent : Bool
  /-- Whether the last character was an `@`. -/
  atSign : Bool

/-- What was seen after one more character. -/
def AuthorityScan.next (s : AuthorityScan) (c : Char) : Except UriError AuthorityScan :=
  let s := { s with atSign := c == '@' }
  if c = ':' then
    if 8 ≤ s.colons then .error .badAuthority else .ok { s with colons := s.colons + 1 }
  else if c = '[' then
    if s.percent || s.opened then .error .badAuthority else .ok { s with opened := true }
  else if c = ']' then
    if !s.opened || s.closed then .error .badAuthority
    else .ok { s with closed := true, colons := 0, percent := false }
  else if c = '@' then .ok { s with colons := 0, percent := false }
  else if c = '%' then .ok { s with percent := true }
  else if isAuthorityChar c then .ok s
  else .error .badCharacter

/-- Checks an authority. -/
def checkAuthority (authority : List Char) : Except UriError Unit := do
  let s ← authority.foldlM AuthorityScan.next ⟨0, false, false, false, false⟩
  if s.opened != s.closed || 1 < s.colons || s.atSign || s.percent then .error .badAuthority
  else .ok ()

/-- Whether a character may stand in a path. -/
def isPathChar (c : Char) : Bool :=
  32 < c.toNat && !("#<>?\x60".toList.contains c)

/-- Whether a character may stand in a query. -/
def isQueryChar (c : Char) : Bool := 32 < c.toNat && !("\"#<>".toList.contains c)

/-- Checks a path and a query. -/
def checkPath (text : List Char) : Except UriError Unit :=
  let text := text.takeWhile (· ≠ '#')
  let path := text.takeWhile (· ≠ '?')
  let query := (text.dropWhile (· ≠ '?')).drop 1
  if path.all isPathChar && query.all isQueryChar then .ok () else .error .badCharacter

/-- Whether a character ends an authority. -/
def endsAuthority (c : Char) : Bool := c == '/' || c == '?' || c == '#'

/-- The longest text that can be connected to, in bytes. -/
def uriLimit : Nat := 65534

/-- Checks a text that begins with `http://` or `https://`. -/
def checkUri (uri : String) : Except UriError Unit := do
  if uriLimit < uri.utf8ByteSize then throw .tooLong
  let chars := uri.toList
  let rest := ((Text.after? "http://".toList chars <|> Text.after? "https://".toList chars).getD [])
  if rest.isEmpty then throw .empty
  let authority := rest.takeWhile fun c => !endsAuthority c
  checkAuthority authority
  if authority.isEmpty then throw .badFormat
  checkPath (rest.dropWhile fun c => !endsAuthority c)

end LoginGate.Http
