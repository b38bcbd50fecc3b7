import LoginGate.Dictionary
import LoginGate.Policy.Limit
import LoginGate.Text.Numeral

/-!
# Settings

What the user can set, by an option on the command line or by a variable of the
environment, and which texts are values of each setting. A port and a limit are
numerals in their range; the verbosity is a level by its name or its number;
everything else may be any text.
-/

namespace LoginGate

/-- What the user can set. -/
inductive Setting where
  /-- The port to listen on. -/
  | port
  /-- The session limit for requests that do not give one. -/
  | sessionLimit
  /-- The database of the sessions. -/
  | dsn
  /-- Where the analytics service counts sessions. -/
  | countUrl
  /-- Where the analytics service lists sessions. -/
  | searchUrl
  /-- The user of the analytics service. -/
  | username
  /-- The password of that user. -/
  | password
  /-- The token of the administration. -/
  | adminToken
  /-- How much is logged. -/
  | verbosity
deriving DecidableEq, Repr

namespace Setting

/-- All settings, in the order in which the environment is asked for them. -/
def all : List Setting :=
  [port, sessionLimit, dsn, countUrl, searchUrl, username, password, adminToken, verbosity]

/-- The settings of the analytics service. -/
def analytics : List Setting := [countUrl, searchUrl, username, password]

/-- The name of the option. -/
def name : Setting → String
  | port => "port"
  | sessionLimit => "session-limit"
  | dsn => "dsn"
  | countUrl => "analytics-count-url"
  | searchUrl => "analytics-search-url"
  | username => "analytics-username"
  | password => "analytics-password"
  | adminToken => "admin-token"
  | verbosity => "verbose"

/-- The letter of the option, if it has one. -/
def letter? : Setting → Option Char
  | port => some 'p'
  | sessionLimit => some 'l'
  | dsn => some 'd'
  | verbosity => some 'v'
  | _ => none

/-- The variable of the environment. -/
def variableName : Setting → String
  | port => "SESSIONGATE_PORT"
  | sessionLimit => "SESSIONGATE_SESSION_LIMIT"
  | dsn => "SESSIONGATE_DSN"
  | countUrl => "SESSIONGATE_ANALYTICS_COUNT_URL"
  | searchUrl => "SESSIONGATE_ANALYTICS_SEARCH_URL"
  | username => "SESSIONGATE_ANALYTICS_USERNAME"
  | password => "SESSIONGATE_ANALYTICS_PASSWORD"
  | adminToken => "SESSIONGATE_ADMIN_TOKEN"
  | verbosity => "SESSIONGATE_LOG_LEVEL"

/-- Whether the option counts how often it is given instead of taking a value. -/
def counts (s : Setting) : Bool := s == verbosity

end Setting

/-! ### Values -/

/-- The port in a text: a numeral that fits a word of 16 bits. -/
def readPort? (text : String) : Option Nat :=
  match Text.signed64? text.toList with
  | some (.ofNat n) => if n < Word.size16 then some n else none
  | _ => none

/-- The limit in a text. -/
def readLimit? (text : String) : Option SessionLimit := (SessionLimit.parse (some text)).toOption

/-- The greatest verbosity. -/
def verbosityBound : Nat := 5

/-- The verbosity of a level given by its name in small letters. -/
def levelVerbosity? : String → Option Nat
  | "error" => some 0
  | "warn" => some 1
  | "info" => some 2
  | "debug" => some 3
  | "trace" => some 4
  | _ => none

/-- The verbosity in a text: its number, or the name of a level in letters of
    any case. -/
def readVerbosity? (text : String) : Option Nat :=
  match Text.unsignedUpTo? verbosityBound text.toList with
  | some n => some n
  | none => levelVerbosity? (String.ofList (text.toList.map Char.toLower))

/-- Whether a text is a value of a setting. -/
def Setting.admits (s : Setting) (text : String) : Bool :=
  match s with
  | .port => (readPort? text).isSome
  | .sessionLimit => (readLimit? text).isSome
  | .verbosity => (readVerbosity? text).isSome
  | _ => true

/-- The settings that are given, each with the text of its value, which may be
    empty. -/
abbrev Given := Dictionary Setting String

end LoginGate
