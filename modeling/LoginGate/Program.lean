import LoginGate.Text.Blank

/-!
# What the program says

The name and version by which the program is known, and the log lines that it
writes while it works, in order: a level and a message. The level of verbosity
chosen by the user tells which levels are shown.
-/

namespace LoginGate

/-! ### Name and version -/

/-- The name of the program. -/
def productName : String := "sessiongate"

/-- The version of the program. -/
def productVersion : String := "0.1.0"

/-- The commit that the program was built from, as far as it is known. -/
def productCommit : String := "unknown"

/-- How the program names itself to the servers that it asks. -/
def productAgent : String := productName ++ "/" ++ productVersion

/-- What the program says about its version, in the long form with the commit. -/
def versionText (long : Bool) : String :=
  productName ++ " " ++ productVersion ++ if long then " - " ++ productCommit else ""

/-- The beginning of a text, given how many bytes of it there is room for, or
    nothing if the room ends inside a character. -/
def firstBytes? : Nat → List Char → Option (List Char)
  | 0, _ => some []
  | _, [] => some []
  | room + 1, c :: rest =>
    if c.utf8Size ≤ room + 1 then (firstBytes? (room + 1 - c.utf8Size) rest).map (c :: ·) else none

/-- The length of the short form of a commit in bytes. -/
def shortCommitLength : Nat := 7

/-- The short form of a commit, or nothing if it would end inside a character. -/
def shortCommit? (commit : String) : Option String :=
  (firstBytes? shortCommitLength (Text.trim commit.toList)).map String.ofList

/-! ### Log lines -/

/-- The levels of log lines, from the most to the least important. -/
inductive LogLevel where
  | error
  | warn
  | info
  | debug
  | trace
deriving DecidableEq, Repr

/-- The name of a level. -/
def LogLevel.name : LogLevel → String
  | .error => "ERROR"
  | .warn => "WARN"
  | .info => "INFO"
  | .debug => "DEBUG"
  | .trace => "TRACE"

/-- A log line. -/
structure LogLine where
  /-- How important the line is. -/
  level : LogLevel
  /-- What it says. -/
  message : String
deriving DecidableEq, Repr

/-- The line with its level in front. -/
def LogLine.text (l : LogLine) : String := l.level.name ++ " " ++ l.message

/-- The lines from errors to the chosen verbosity; nothing is chosen by zero,
    and everything from four on. -/
def LogLevel.ofVerbosity : Nat → Option LogLevel
  | 0 => none
  | 1 => some .warn
  | 2 => some .info
  | 3 => some .debug
  | _ => some .trace

/-- Where a level stands, counted from the most important one. -/
def LogLevel.rank : LogLevel → Nat
  | .error => 0
  | .warn => 1
  | .info => 2
  | .debug => 3
  | .trace => 4

/-- The lines that are shown at a verbosity: those of the chosen level and of
    the more important ones, and errors in any case. -/
def shownLines (verbosity : Nat) (lines : List LogLine) : List LogLine :=
  let chosen := (LogLevel.ofVerbosity verbosity).getD .error
  lines.filter fun l => l.level.rank ≤ chosen.rank

end LoginGate
