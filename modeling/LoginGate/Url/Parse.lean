import LoginGate.Url.Basic
import LoginGate.Url.Domain

/-!
# Reading URLs

A URL is read as browsers read it. Blanks and controls around it and tabs and
line breaks in it do not count. Some schemes are special: they need a host,
which is a domain name or an address; their paths begin with a slash, and a
backslash is as good as a slash. Any other scheme has an authority only after
two slashes, and its host is an opaque name. Segments `.` and `..` of a path
are carried out.
-/

namespace LoginGate.Url

/-! ### Schemes -/

/-- How URLs of a scheme are read. -/
inductive SchemeKind where
  /-- A scheme with a host, or none that has to be named. -/
  | file
  /-- A scheme with a host and a usual port. -/
  | special (port : Nat)
  /-- Any other scheme. -/
  | other
deriving DecidableEq, Repr

/-- The kind of a scheme. -/
def SchemeKind.ofScheme (scheme : List Char) : SchemeKind :=
  match String.ofList scheme with
  | "file" => .file
  | "http" | "ws" => .special 80
  | "https" | "wss" => .special 443
  | "ftp" => .special 21
  | _ => .other

/-- Whether a scheme is special. -/
def SchemeKind.isSpecial : SchemeKind → Bool
  | .other => false
  | .file | .special _ => true

/-- Whether a character may stand in a scheme. -/
def isSchemeChar (c : Char) : Bool := c.isAlphanum || c == '+' || c == '-' || c == '.'

/-- The scheme that a text begins with, in small letters, and what follows its
    colon. -/
def cutScheme? (s : List Char) : Option (List Char × List Char) :=
  match s.takeWhile isSchemeChar, s.dropWhile isSchemeChar with
  | c :: scheme, ':' :: rest =>
    if c.isAlpha then some ((c :: scheme).map Char.toLower, rest) else none
  | _, _ => none

/-! ### What is encoded where -/

/-- Controls and everything that is not ASCII. -/
def encodesControls (c : Char) : Bool := c.toNat < 32 || 126 < c.toNat

/-- What is encoded in a fragment. -/
def encodesFragment (c : Char) : Bool := encodesControls c || " \"<>\x60".toList.contains c

/-- What is encoded in a path. -/
def encodesPath (c : Char) : Bool := encodesFragment c || "#?\x7b\x7d".toList.contains c

/-- What is encoded in the name and password of a user. -/
def encodesUser (c : Char) : Bool := encodesPath c || "/:;=@[\\]^|".toList.contains c

/-- What is encoded in a query. -/
def encodesQuery (special : Bool) (c : Char) : Bool :=
  encodesControls c || " \"#<>".toList.contains c || (special && c == '\'')

/-! ### Hosts -/

/-- Whether no opaque host may have a character. -/
def isHostDelimiter (c : Char) : Bool :=
  c == '\x00' || "\t\n\r #/:<>?@[\\]^|".toList.contains c

/-- Reads an address in brackets, given what follows the opening one. -/
def bracketedHost (text : List Char) : Except UrlError Host :=
  match text.getLast? with
  | some ']' =>
    match ipv6? text.dropLast with
    | some groups => .ok (.ipv6 groups)
    | none => .error .badIpv6
  | _ => .error .badIpv6

/-- Reads the host of a special scheme. -/
def specialHost (text : List Char) : Except UrlError Host :=
  match text with
  | '[' :: rest => bracketedHost rest
  | _ =>
    match (Text.percentDecoded? (String.ofList text)).bind fun name => asciiDomain? name.toList with
    | none => .error .badDomain
    | some [] => .error .emptyHost
    | some name =>
      if endsInNumber name then
        match ipv4? name with
        | some address => .ok (.ipv4 address)
        | none => .error .badIpv4
      else .ok (.name name)

/-- Reads the host of a scheme that is not special. -/
def opaqueHost (text : List Char) : Except UrlError Host :=
  match text with
  | '[' :: rest => bracketedHost rest
  | _ =>
    if text.any isHostDelimiter then .error .badHostCharacter
    else .ok (.name (Text.percentEncode encodesControls text))

/-- Whether a character ends an authority. -/
def endsAuthority (special : Bool) (c : Char) : Bool :=
  c == '/' || c == '?' || c == '#' || (special && c == '\\')

/-- The host that a text begins with, up to a colon that is not in brackets. -/
def hostPart (inBrackets : Bool) : List Char → List Char × List Char
  | [] => ([], [])
  | c :: rest =>
    if c = ':' ∧ !inBrackets then ([], c :: rest)
    else
      let (host, rest) := hostPart (c == '[' || (inBrackets && c != ']')) rest
      (c :: host, rest)

/-- Reads the port that follows a colon, up to the end of the text or a
    backslash. -/
def portPart (text : List Char) : Except UrlError (Option Nat × List Char) :=
  let digits := text.takeWhile Char.isDigit
  let rest := text.dropWhile Char.isDigit
  let port := Text.digitsValue digits
  if 65535 < port then .error .badPort
  else if rest.head?.all (· == '\\') then
    .ok (if digits.isEmpty then none else some port, rest)
  else .error .badPort

/-! ### Authorities -/

/-- What stands before and after the last `@`, if there is one. -/
def cutUser? (s : List Char) : Option (List Char × List Char) :=
  (Text.cut? '@' s.reverse).map fun (after, before) => (before.reverse, after.reverse)

/-- The encoded name and password of a user. An empty password is none. -/
def userParts (user : List Char) : List Char × Option (List Char) :=
  let encoded := Text.percentEncode encodesUser
  match Text.cut? ':' user with
  | none => (encoded user, none)
  | some (name, []) => (encoded name, none)
  | some (name, password) => (encoded name, some (encoded password))

/-- Reads an authority, given whether more follows it: the authority and what is
    left of its text, which is part of the path. -/
def authorityPart (kind : SchemeKind) (text : List Char) (more : Bool) :
    Except UrlError (Authority × List Char) := do
  let (user, text) ← match cutUser? text with
    | none => pure ([], text)
    | some (user, text) =>
      if user.isEmpty && text.isEmpty && more then throw .emptyHost else pure (user, text)
  let (username, password) := userParts user
  let (hostText, rest) := hostPart false text
  let host ← if kind.isSpecial then
      if hostText.isEmpty then throw .emptyHost else specialHost hostText
    else opaqueHost hostText
  let nameless := host == .name []
  match rest with
  | [] =>
    if nameless && !(username.isEmpty && password.isNone) then throw .emptyHost
    return (⟨username, password, host, none⟩, [])
  | _ :: portText =>
    if nameless then throw .emptyHost
    let (port, rest) ← portPart portText
    let usual := match kind with
      | .special usual => port == some usual
      | _ => false
    return (⟨username, password, host, if usual then none else port⟩, rest)

/-! ### Paths -/

/-- Whether a segment stands for the same place. -/
def isSameSegment (segment : List Char) : Bool :=
  ["." , "%2e"].contains (String.ofList (segment.map Char.toLower))

/-- Whether a segment stands for the place above. -/
def isAboveSegment (segment : List Char) : Bool :=
  ["..", ".%2e", "%2e.", "%2e%2e"].contains (String.ofList (segment.map Char.toLower))

/-- Whether a segment names a drive. -/
def isDrive : List Char → Bool
  | [c, mark] => c.isAlpha && (mark == ':' || mark == '|')
  | _ => false

/-- The place above, given by its segments in reverse. A drive has none. -/
def above : List (List Char) → List (List Char)
  | [] => []
  | segment :: rest => if isDrive segment then segment :: rest else rest

/-- The segments after some pieces, on top of others in reverse. The place
    itself and the place above end in a slash if nothing follows them. -/
def placed (file : Bool) (done : List (List Char)) : List (List Char) → List (List Char)
  | [] => done.reverse
  | piece :: more =>
    let segment := Text.percentEncode encodesPath piece
    if isAboveSegment segment then
      placed file (if more.isEmpty then [] :: above done else above done) more
    else if isSameSegment segment then placed file (if more.isEmpty then [] :: done else done) more
    else if file && done.isEmpty && isDrive segment then
      placed file [[segment.headD 'C', ':']] more
    else placed file (segment :: done) more

/-- The segments of a path after its first slash. -/
def segmentsOf (kind : SchemeKind) (text : List Char) : List (List Char) :=
  let text := if kind.isSpecial then text.map fun c => if c = '\\' then '/' else c else text
  placed (kind == .file) [] (Text.pieces '/' text)

/-- The path of a file, which does not begin with empty segments. -/
def filePath (text : List Char) : Path :=
  match (segmentsOf .file (text.dropWhile fun c => c == '/' || c == '\\')).dropWhile (·.isEmpty) with
  | [] => .segments [[]]
  | segments => .segments segments

/-- The path that follows an authority. -/
def pathAfterAuthority (kind : SchemeKind) (text : List Char) : Path :=
  match text with
  | [] => .segments (if kind.isSpecial then [[]] else [])
  | c :: rest =>
    .segments (segmentsOf kind
      (if c = '/' ∨ (kind.isSpecial ∧ c = '\\') then rest else c :: rest))

/-! ### Whole URLs -/

/-- The text before the query and the fragment, the query and the fragment. -/
def cutTail (s : List Char) : List Char × Option (List Char) × Option (List Char) :=
  let (s, fragment) := match Text.cut? '#' s with
    | some (before, after) => (before, some after)
    | none => (s, none)
  match Text.cut? '?' s with
  | some (before, after) => (before, some after, fragment)
  | none => (s, none, fragment)

/-- Reads a file's URL after its scheme. -/
def fileParts (text : List Char) : Except UrlError (Authority × Path) :=
  let isSlash (c : Char) : Bool := c == '/' || c == '\\'
  let nowhere : Authority := ⟨[], none, .name [], none⟩
  match text with
  | a :: b :: rest =>
    if isSlash a && isSlash b then
      let host := rest.takeWhile fun c => !isSlash c
      let path := rest.dropWhile fun c => !isSlash c
      if host.isEmpty then .ok (nowhere, filePath path)
      else if isDrive host then .ok (nowhere, filePath rest)
      else
        match specialHost host with
        | .error e => .error e
        | .ok host =>
          if host = .name "localhost".toList then .ok (nowhere, filePath path)
          else .ok ({ nowhere with host := host }, filePath path)
    else .ok (nowhere, filePath text)
  | _ => .ok (nowhere, filePath text)

/-- Reads the authority and the path of a URL after its scheme, given whether
    anything follows the path. -/
def partsOf (kind : SchemeKind) (text : List Char) (more : Bool) :
    Except UrlError (Option Authority × Path) := do
  let withAuthority (text : List Char) : Except UrlError (Option Authority × Path) := do
    let authority := text.takeWhile fun c => !endsAuthority kind.isSpecial c
    let path := text.dropWhile fun c => !endsAuthority kind.isSpecial c
    let (a, rest) ← authorityPart kind authority (!path.isEmpty || more)
    return (some a, pathAfterAuthority kind (rest ++ path))
  match kind, text with
  | .file, text => do
    let (a, path) ← fileParts text
    return (some a, path)
  | .special _, text => withAuthority (text.dropWhile fun c => c == '/' || c == '\\')
  | .other, '/' :: '/' :: rest => withAuthority rest
  | .other, '/' :: rest => return (none, .segments (segmentsOf kind rest))
  | .other, text => return (none, .plain (Text.percentEncode encodesControls text))

/-- Whether a character around a URL does not count. -/
def isOuterBlank (c : Char) : Bool := c.toNat ≤ 32

/-- Whether a character in a URL does not count. -/
def isInnerBlank (c : Char) : Bool := c == '\t' || c == '\n' || c == '\r'

/-- The characters of a text that count. -/
def countingChars (s : List Char) : List Char :=
  (((s.dropWhile isOuterBlank).reverse.dropWhile isOuterBlank).reverse).filter (!isInnerBlank ·)

/-- Reads a URL. -/
def parse (s : String) : Except UrlError Url := do
  match cutScheme? (countingChars s.toList) with
  | none => throw .noScheme
  | some (scheme, rest) =>
    let kind := SchemeKind.ofScheme scheme
    let (text, query, fragment) := cutTail rest
    let (authority, path) ← partsOf kind text (query.isSome || fragment.isSome)
    return ⟨scheme, authority, path,
      query.map (Text.percentEncode (encodesQuery kind.isSpecial)),
      fragment.map (Text.percentEncode encodesFragment)⟩

end LoginGate.Url
