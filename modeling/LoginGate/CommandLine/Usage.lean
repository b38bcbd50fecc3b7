import LoginGate.CommandLine.Arguments
import LoginGate.Program
import LoginGate.Text.Quoted

/-!
# Usage

What the program says when it does not start: help, its version, or what is
wrong with the command line.
-/

namespace LoginGate

/-- What a setting is for. -/
def Setting.help : Setting → String
  | .port => "Port to listen on"
  | .sessionLimit => "Default maximum number of concurrent active sessions per principal"
  | .dsn => "PostgreSQL connection string for the active_sessions table"
  | .countUrl => "Analytics endpoint returning the active session count"
  | .searchUrl => "Analytics endpoint listing active sessions"
  | .username => "Analytics basic auth username"
  | .password => "Analytics basic auth password"
  | .adminToken => "Bearer token required to list or terminate sessions"
  | .verbosity => "Verbosity level: ERROR, WARN, INFO, DEBUG, TRACE (default: ERROR)"

namespace CommandLine

/-- The line of an option. -/
def optionLine (s : Setting) : String :=
  let letter := match s.letter? with
    | some c => String.ofList ['-', c, ',', ' ']
    | none => "    "
  let value := if s.counts then "" else " <" ++ s.name ++ ">"
  "\n  " ++ letter ++ "--" ++ s.name ++ value ++ "\n          " ++ s.help ++ " [env: " ++
    s.variableName ++ "]"

/-- The help. -/
def usage : String :=
  "Usage: " ++ productName ++ " [OPTIONS] <--dsn <dsn>|--analytics-count-url <analytics-count-url>>" ++
    "\n\nOptions:" ++ String.join (Setting.all.map optionLine) ++
    "\n  -h, --help\n          Print help\n  -V, --version\n          Print version"

/-- Whether the user asked for what is said. -/
def Stop.isAnswer : Stop → Bool
  | .help | .version _ => true
  | _ => false

/-- What is said. -/
def Stop.message : Stop → String
  | .help => usage
  | .version long => versionText long
  | .unknown argument => "error: unexpected argument " ++ Text.quoted argument
  | .valueMissing s => "error: a value is required for --" ++ s.name
  | .surplusValue option => "error: unexpected value for --" ++ option
  | .badValue s value => "error: invalid value " ++ Text.quoted value ++ " for --" ++ s.name
  | .repeated s => "error: --" ++ s.name ++ " cannot be used multiple times"
  | .twoStores => "error: --dsn cannot be used with --analytics-count-url"
  | .noStore => "error: either --dsn or all of the analytics options are required"

end CommandLine

end LoginGate
