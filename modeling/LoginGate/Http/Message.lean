import LoginGate.Text.Split
import LoginGate.Text.Utf8

/-!
# HTTP messages

Requests and responses as far as the service deals with them. The value of a
header and the body of a request are strings of bytes, which may be no text at all.
Only values of visible ASCII characters and tabs are taken for texts. The names of headers are compared
without regard to case, and of several headers of one name the first one counts.
-/

namespace LoginGate.Http

/-- The method of a request. -/
inductive Method where
  /-- Asks for a resource. -/
  | get
  /-- Asks for the headers of a resource. -/
  | head
  /-- Submits a body. -/
  | post
  /-- Removes a resource. -/
  | delete
  /-- Asks what is admitted. -/
  | options
  /-- Any other method. -/
  | other (name : String)
deriving DecidableEq, Repr

/-- The method of a name. -/
def Method.ofName (name : String) : Method :=
  match name with
  | "GET" => .get
  | "HEAD" => .head
  | "POST" => .post
  | "DELETE" => .delete
  | "OPTIONS" => .options
  | name => .other name

/-- The name of a method. -/
def Method.name : Method → String
  | .get => "GET"
  | .head => "HEAD"
  | .post => "POST"
  | .delete => "DELETE"
  | .options => "OPTIONS"
  | .other name => name

/-- A header of a message. -/
structure Header where
  /-- The name. -/
  name : String
  /-- The bytes of the value. -/
  value : List UInt8
deriving DecidableEq, Repr

namespace Header

/-- The header with a text as its value. -/
def ofText (name value : String) : Header := ⟨name, Text.utf8 value⟩

/-- The value of the first header of a name. -/
def first? (name : String) (headers : List Header) : Option (List UInt8) :=
  (headers.find? fun h => h.name.toLower == name.toLower).map Header.value

/-- Whether a byte may stand in a text: visible ASCII, a space or a tab. -/
def isTextByte (b : UInt8) : Bool := (0x20 ≤ b && b < 0x7f) || b == 0x09

/-- The text of a value, if it is one. -/
def text? (value : List UInt8) : Option (List Char) :=
  if value.all isTextByte then some (value.map fun b => Char.ofNat b.toNat) else none

/-- The text of the first header of a name, if there is one and it is a text. -/
def firstText? (name : String) (headers : List Header) : Option (List Char) :=
  (first? name headers).bind text?

end Header

/-- The body of a request. -/
abbrev Body := List UInt8

instance : Coe String Body := ⟨Text.utf8⟩

/-- A request. -/
structure Request where
  /-- The method. -/
  method : Method
  /-- The target: a path with an optional query, or a whole address. -/
  target : String
  /-- The headers in their order. -/
  headers : List Header
  /-- The bytes of the body. -/
  body : Body

/-- Whether a character ends a path. -/
def endsPath (c : Char) : Bool := c == '?' || c == '#'

/-- What follows `://` in a target. -/
def afterScheme? : List Char → Option (List Char)
  | [] => none
  | c :: rest =>
    match Text.after? [':', '/', '/'] (c :: rest) with
    | some address => some address
    | none => afterScheme? rest

/-- The path that a target names. Of a whole address it is what follows the
    authority, and a slash if nothing does. A target that is neither a path nor
    an address with a scheme names no path. -/
def Request.path (r : Request) : List Char :=
  let target := r.target.toList
  match target with
  | '/' :: _ => target.takeWhile fun c => !endsPath c
  | ['*'] => target
  | _ =>
    match afterScheme? target with
    | none => []
    | some address =>
      match (address.dropWhile fun c => !(c == '/' || endsPath c)).takeWhile fun c => !endsPath c with
      | [] => ['/']
      | path => path

/-- The outcome of a request. -/
inductive Status where
  /-- The request was done. -/
  | ok
  /-- The request was done and there is nothing to say. -/
  | noContent
  /-- The resource is found elsewhere. -/
  | seeOther
  /-- The request makes no sense. -/
  | badRequest
  /-- The request needs a token. -/
  | unauthorized
  /-- There is no such resource. -/
  | notFound
  /-- The resource does not admit the method. -/
  | methodNotAllowed
  /-- The service cannot do this. -/
  | notImplemented
  /-- The service cannot do this now. -/
  | serviceUnavailable
deriving DecidableEq, Repr

/-- The number of a status. -/
def Status.code : Status → Nat
  | .ok => 200
  | .noContent => 204
  | .seeOther => 303
  | .badRequest => 400
  | .unauthorized => 401
  | .notFound => 404
  | .methodNotAllowed => 405
  | .notImplemented => 501
  | .serviceUnavailable => 503

/-- A response. -/
structure Response where
  /-- The status. -/
  status : Status
  /-- The headers. -/
  headers : List Header
  /-- The text of the body. -/
  body : String
deriving DecidableEq, Repr

namespace Response

/-- A response without a body. -/
def empty (status : Status) : Response := ⟨status, [], ""⟩

/-- A response with a plain text. -/
def plain (status : Status) (body : String) : Response :=
  ⟨status, [.ofText "content-type" "text/plain; charset=utf-8"], body⟩

/-- A response with a JSON text. -/
def json (status : Status) (body : String) : Response :=
  ⟨status, [.ofText "content-type" "application/json"], body⟩

/-- The response with another header. -/
def withHeader (r : Response) (name value : String) : Response :=
  { r with headers := r.headers ++ [.ofText name value] }

end Response

end LoginGate.Http
