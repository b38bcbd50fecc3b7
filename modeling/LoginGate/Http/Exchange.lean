import LoginGate.Http.Message
import LoginGate.Http.Uri
import LoginGate.Text.Base64
import LoginGate.Text.Percent
import LoginGate.Url.Basic

/-!
# Exchanges with other services

The requests that the program makes itself, and what comes back. The other end
is a `Transport`, an arbitrary function on a state: it answers, or it does not,
or its answer breaks off.

An address may hold credentials. They are not part of what is asked for: they
are sent as a header, and the address is shown without them.
-/

namespace LoginGate.Http

/-- A request that the program makes. -/
structure Inquiry where
  /-- The method. -/
  method : Method
  /-- What is asked for. -/
  address : Url
  /-- The headers in their order. -/
  headers : List Header
  /-- The text of the body. -/
  body : String
deriving DecidableEq

/-- An answer. -/
structure Answer where
  /-- The status. -/
  status : Nat
  /-- The headers in their order. -/
  headers : List Header
  /-- The bytes of the body, or none of them if it breaks off. -/
  body : Option (List UInt8)
deriving DecidableEq, Repr

/-- What comes back. -/
inductive Reply where
  /-- Nothing at all, before the connection ends or the time is over. -/
  | silence
  /-- An answer. -/
  | answer (answer : Answer)
deriving DecidableEq, Repr

/-- The other end of exchanges. -/
def Transport (σ : Type) := Inquiry → σ → Reply × σ

/-! ### Statuses in words -/

/-- The reasons of the statuses that have one. -/
def reasons : List (Nat × String) :=
  [(100, "Continue"), (101, "Switching Protocols"), (102, "Processing"),
    (200, "OK"), (201, "Created"), (202, "Accepted"), (203, "Non Authoritative Information"),
    (204, "No Content"), (205, "Reset Content"), (206, "Partial Content"), (207, "Multi-Status"),
    (208, "Already Reported"), (226, "IM Used"),
    (300, "Multiple Choices"), (301, "Moved Permanently"), (302, "Found"), (303, "See Other"),
    (304, "Not Modified"), (305, "Use Proxy"), (307, "Temporary Redirect"),
    (308, "Permanent Redirect"),
    (400, "Bad Request"), (401, "Unauthorized"), (402, "Payment Required"), (403, "Forbidden"),
    (404, "Not Found"), (405, "Method Not Allowed"), (406, "Not Acceptable"),
    (407, "Proxy Authentication Required"), (408, "Request Timeout"), (409, "Conflict"),
    (410, "Gone"), (411, "Length Required"), (412, "Precondition Failed"),
    (413, "Payload Too Large"), (414, "URI Too Long"), (415, "Unsupported Media Type"),
    (416, "Range Not Satisfiable"), (417, "Expectation Failed"), (418, "I'm a teapot"),
    (421, "Misdirected Request"), (422, "Unprocessable Entity"), (423, "Locked"),
    (424, "Failed Dependency"), (425, "Too Early"), (426, "Upgrade Required"),
    (428, "Precondition Required"), (429, "Too Many Requests"),
    (431, "Request Header Fields Too Large"), (451, "Unavailable For Legal Reasons"),
    (500, "Internal Server Error"), (501, "Not Implemented"), (502, "Bad Gateway"),
    (503, "Service Unavailable"), (504, "Gateway Timeout"), (505, "HTTP Version Not Supported"),
    (506, "Variant Also Negotiates"), (507, "Insufficient Storage"), (508, "Loop Detected"),
    (510, "Not Extended"), (511, "Network Authentication Required")]

/-- The number of a status and its reason. -/
def statusText (status : Nat) : String :=
  Text.numeral status ++ " " ++
    (reasons.lookup status).getD "<unknown status code>"

/-! ### Credentials -/

/-- The header of a user and a password. -/
def basicAuthorization (username password : String) : Header :=
  .ofText "authorization"
    ("Basic " ++ String.ofList (Text.base64Encode (Text.utf8 (username ++ ":" ++ password))))

/-- The URL as it is asked for and shown: without credentials. -/
def shownAddress (u : Url) : Url := if u.credentials?.isSome then u.withoutUser else u

/-- The header of the credentials in a URL, if there are any. -/
def credentialHeaders (u : Url) : List Header :=
  (u.credentials?.map fun (username, password) =>
    basicAuthorization username (password.getD "")).toList

/-! ### Making an inquiry -/

/-- Why an inquiry has no answer. -/
inductive InquiryError where
  /-- Nothing can be asked for at the address. -/
  | badAddress (shown : Url)
  /-- No answer came. -/
  | unanswered (shown : Url)
deriving DecidableEq, Repr

/-- The error in words. -/
def InquiryError.message : InquiryError → String
  | .badAddress shown => "builder error for url (" ++ shown.text ++ ")"
  | .unanswered shown => "error sending request for url (" ++ shown.text ++ ")"

/-- Whether anything can be asked for at a URL. -/
def admitsInquiries (u : Url) : Bool :=
  (u.scheme == "http".toList || u.scheme == "https".toList) &&
    match checkUri u.text with
    | .ok _ => true
    | .error _ => false

/-- Makes an inquiry at a URL. Only an answer that comes, whatever it is, is
    none of the errors. -/
def inquire {σ : Type} (transport : Transport σ) (method : Method) (url : Url)
    (headers : List Header) (body : String) (s : σ) :
    Except InquiryError Answer × σ :=
  let shown := shownAddress url
  if admitsInquiries shown then
    let inquiry : Inquiry := ⟨method, { shown with fragment := none },
      credentialHeaders url ++ headers, body⟩
    match transport inquiry s with
    | (.answer answer, s) => (.ok answer, s)
    | (.silence, s) => (.error (.unanswered shown), s)
  else (.error (.badAddress shown), s)

end LoginGate.Http
