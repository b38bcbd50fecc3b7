import LoginGate.Text.Percent
import LoginGate.Url.Address

/-!
# Addresses of resources

A URL in its parts, and its text. The parts are held as they are written: with
everything percent-encoded that could be mistaken for a delimiter.
-/

namespace LoginGate

/-- Why a text is no URL. -/
inductive UrlError where
  /-- The text does not begin with a scheme. -/
  | noScheme
  /-- There is no host where one is needed. -/
  | emptyHost
  /-- The host is a number that is no address of 32 bits. -/
  | badIpv4
  /-- The host in brackets is no address of 128 bits. -/
  | badIpv6
  /-- The port is no number of 16 bits. -/
  | badPort
  /-- The host is no domain name. -/
  | badDomain
  /-- The host has a character that no host may have. -/
  | badHostCharacter
deriving DecidableEq, Repr

/-- The error in words. -/
def UrlError.message : UrlError → String
  | .noScheme => "relative URL without a base"
  | .emptyHost => "empty host"
  | .badIpv4 => "invalid IPv4 address"
  | .badIpv6 => "invalid IPv6 address"
  | .badPort => "invalid port number"
  | .badDomain => "invalid international domain name"
  | .badHostCharacter => "invalid domain character"

namespace Url

/-- The host of a URL. -/
inductive Host where
  /-- A name, which may be empty. -/
  | name (text : List Char)
  /-- An address of 32 bits. -/
  | ipv4 (address : Nat)
  /-- The groups of an address of 128 bits. -/
  | ipv6 (groups : List Nat)
deriving DecidableEq, Repr

/-- The text of a host. -/
def Host.text : Host → List Char
  | .name text => text
  | .ipv4 address => ipv4Text address
  | .ipv6 groups => '[' :: ipv6Text groups ++ [']']

/-- Where a resource is found, and as whom. -/
structure Authority where
  /-- The name of the user, which may be empty. -/
  username : List Char
  /-- The password of the user, which is not empty. -/
  password : Option (List Char)
  /-- The host. -/
  host : Host
  /-- The port, unless it is the usual one of the scheme. -/
  port : Option Nat
deriving DecidableEq, Repr

/-- The text of the user and the password. -/
def Authority.userText (a : Authority) : List Char :=
  let password := match a.password with
    | some password => ':' :: password
    | none => []
  if a.username.isEmpty && a.password.isNone then [] else a.username ++ password ++ ['@']

/-- The text of an authority. -/
def Authority.text (a : Authority) : List Char :=
  let port := match a.port with
    | some port => ':' :: Text.decimal port
    | none => []
  a.userText ++ a.host.text ++ port

/-- What follows the authority, or the scheme where there is none. -/
inductive Path where
  /-- A text without structure. -/
  | plain (text : List Char)
  /-- Segments, each after a slash. -/
  | segments (parts : List (List Char))
deriving DecidableEq, Repr

/-- The text of a path. -/
def Path.text : Path → List Char
  | .plain text => text
  | .segments parts => parts.flatMap ('/' :: ·)

end Url

/-- The address of a resource. -/
structure Url where
  /-- The scheme, in small letters. -/
  scheme : List Char
  /-- Where the resource is found, for schemes that tell. -/
  authority : Option Url.Authority
  /-- The path. -/
  path : Url.Path
  /-- The query. -/
  query : Option (List Char)
  /-- The fragment. -/
  fragment : Option (List Char)
deriving DecidableEq, Repr

namespace Url

/-- The text of the authority with its slashes. A path that begins with two
    slashes gets a dot in front, so that it is not taken for an authority. -/
def authorityText (u : Url) : List Char :=
  match u.authority, u.path with
  | some a, _ => ['/', '/'] ++ a.text
  | none, .segments ([] :: _ :: _) => ['/', '.']
  | none, _ => []

/-- The text of a part after its mark, if the part is there. -/
def markedText (mark : Char) : Option (List Char) → List Char
  | some text => mark :: text
  | none => []

/-- The characters of a URL. -/
def chars (u : Url) : List Char :=
  u.scheme ++ [':'] ++ u.authorityText ++ u.path.text ++ markedText '?' u.query ++
    markedText '#' u.fragment

/-- The text of a URL. -/
def text (u : Url) : String := String.ofList u.chars

/-- The user and the password in a URL, if there are any and they are texts. -/
def credentials? (u : Url) : Option (String × Option String) := do
  let a ← u.authority
  let decoded (part : List Char) : Option String := Text.percentDecoded? (String.ofList part)
  let username ← decoded a.username
  let password := a.password.bind decoded
  if username.isEmpty && password.isNone then none else some (username, password)

/-- The URL without the user and the password. -/
def withoutUser (u : Url) : Url :=
  { u with authority := u.authority.map fun a => { a with username := [], password := none } }

/-- The URL with another password in the place of the one it has, if it has
    one. -/
def replacePassword (u : Url) (password : List Char) : Url :=
  { u with authority := u.authority.map fun a => { a with password := a.password.map fun _ => password } }

end Url

end LoginGate
