import LoginGate.Text.Split

/-!
# Media types

The type of a body, as in `application/problem+json; charset=utf-8`: a type, a
subtype that may end in a suffix after `+`, and parameters. A parameter is a name
and a value with an equals sign between them, and the value may stand between
quotes. The case of letters does not count but for values.
-/

namespace LoginGate.Http

/-- Whether a character may stand in a token. -/
def isTokenChar (c : Char) : Bool := c.isAlphanum || "!#$%&'*+-.^_\x60|~".toList.contains c

/-- Whether a character may stand between quotes. -/
def isQuotedChar (c : Char) : Bool := 31 < c.toNat && c.toNat < 127

/-- A parameter of a media type. -/
structure Parameter where
  /-- The name. -/
  name : List Char
  /-- The value as it is written, without quotes around it. -/
  value : List Char
deriving DecidableEq, Repr

/-- A place in the parameters of a media type, with what has been read of the
    parameter that it is in. -/
inductive ParameterPlace where
  /-- Before a parameter. -/
  | before
  /-- In the name of a parameter. -/
  | name (name : List Char)
  /-- After the equals sign. -/
  | value (name : List Char)
  /-- In a value that is not quoted. -/
  | token (name value : List Char)
  /-- After the opening quote of a value. -/
  | opened (name : List Char)
  /-- In a quoted value. -/
  | quoted (name value : List Char)
  /-- After a backslash in a quoted value. -/
  | escaped (name value : List Char)
  /-- After the closing quote of a value. -/
  | closed

/-- The parameters of a text that goes on at a place. The first character after an
    opening quote never closes the value, and a value without quotes is empty only at
    the end. -/
def ParameterPlace.parameters? : ParameterPlace → List Char → Option (List Parameter)
  | .before, [] | .closed, [] => some []
  | .value n, [] => some [⟨n, []⟩]
  | .token n v, [] => some [⟨n, v⟩]
  | .name _, [] | .opened _, [] | .quoted _ _, [] | .escaped _ _, [] => none
  | .before, c :: s =>
    if c = ' ' then parameters? .before s
    else if isTokenChar c then parameters? (.name [c]) s
    else none
  | .name n, c :: s =>
    if c = '=' then parameters? (.value n) s
    else if isTokenChar c then parameters? (.name (n ++ [c])) s
    else none
  | .value n, c :: s =>
    if c = '"' then parameters? (.opened n) s
    else if isTokenChar c then parameters? (.token n [c]) s
    else none
  | .token n v, c :: s =>
    if c = ';' then (parameters? .before s).map (⟨n, v⟩ :: ·)
    else if isTokenChar c then parameters? (.token n (v ++ [c])) s
    else none
  | .opened n, c :: s =>
    if c = '\\' then parameters? (.escaped n [c]) s
    else if isQuotedChar c then parameters? (.quoted n [c]) s
    else none
  | .quoted n v, c :: s =>
    if c = '"' then (parameters? .closed s).map (⟨n, v⟩ :: ·)
    else if c = '\\' then parameters? (.escaped n (v ++ [c])) s
    else if isQuotedChar c then parameters? (.quoted n (v ++ [c])) s
    else none
  | .escaped n v, c :: s =>
    if isQuotedChar c then parameters? (.quoted n (v ++ [c])) s else none
  | .closed, c :: s =>
    if c = ';' then parameters? .before s
    else if c = ' ' then parameters? .closed s
    else none

/-- A media type. -/
structure MediaType where
  /-- The type. -/
  kind : String
  /-- The subtype without its suffix. -/
  subtype : String
  /-- The suffix of the subtype. -/
  suffix : Option String
  /-- The parameters in their order. -/
  parameters : List Parameter
deriving DecidableEq, Repr

/-- The subtype and suffix of a token, of which the suffix starts after the last
    `+` that is not the first character. -/
def splitSuffix : List Char → List Char × Option (List Char)
  | [] => ([], none)
  | c :: rest =>
    match splitSuffix rest with
    | (before, some suffix) => (c :: before, some suffix)
    | (before, none) =>
      match before with
      | '+' :: suffix => ([c], some suffix)
      | _ => (c :: before, none)

/-- A text in small letters. -/
def inSmallLetters (s : List Char) : String := String.ofList (s.map Char.toLower)

/-- The media type of its parts. -/
def MediaType.ofParts (kind subtype : List Char) (parameters : List Parameter) : MediaType :=
  let (before, suffix) := splitSuffix subtype
  ⟨inSmallLetters kind, inSmallLetters before, suffix.map inSmallLetters, parameters⟩

/-- Reads a media type. -/
def MediaType.parse? (s : List Char) : Option MediaType := do
  let (kind, rest) ← Text.cut? '/' s
  let subtype := rest.takeWhile (· ≠ ';')
  let parameters ← ParameterPlace.before.parameters? ((rest.dropWhile (· ≠ ';')).drop 1)
  if kind ≠ [] ∧ kind.all isTokenChar ∧ subtype ≠ [] ∧ subtype.all isTokenChar then
    some (ofParts kind subtype parameters)
  else none

/-- Whether bodies of a media type are JSON texts. -/
def MediaType.isJson (t : MediaType) : Bool :=
  t.kind == "application" && (t.subtype == "json" || t.suffix == some "json")

/-- The value of the first parameter of a name in small letters. -/
def MediaType.parameter? (name : String) (t : MediaType) : Option (List Char) :=
  (t.parameters.find? fun p => inSmallLetters p.name == name).map Parameter.value

end LoginGate.Http
