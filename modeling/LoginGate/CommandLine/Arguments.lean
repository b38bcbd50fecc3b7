import LoginGate.CommandLine.Setting
import LoginGate.Text.Split

/-!
# Arguments

How the arguments of the command line are read, one after another. An option is
given by its name after two dashes or by its letter after one; letters of
options that take no value can be followed by others. A value stands after an
equals sign, right after the letter, or in the next argument unless that one
begins with a dash. After `--` nothing is left to be said.

The value of an option in the next argument is waited for. What was waited for
is put in when the next option is met or the arguments end, so that a mistake
in it is found only then, and not at all if something unknown comes first.
-/

namespace LoginGate.CommandLine

/-- Why the program does not start. -/
inductive Stop where
  /-- The user asks for help. -/
  | help
  /-- The user asks for the version, in its short or its long form. -/
  | version (long : Bool)
  /-- An argument is no option, and no value of one. -/
  | unknown (argument : String)
  /-- An option lacks its value. -/
  | valueMissing (setting : Setting)
  /-- An option that takes no value has one. -/
  | surplusValue (option : String)
  /-- A text is no value of its setting. -/
  | badValue (setting : Setting) (value : String)
  /-- An option is given twice. -/
  | repeated (setting : Setting)
  /-- Two stores are given at once. -/
  | twoStores
  /-- No store is given, or one that lacks some of its settings. -/
  | noStore
deriving DecidableEq, Repr

/-- What an option stands for. -/
inductive Choice where
  /-- Help. -/
  | help
  /-- The version. -/
  | version
  /-- A setting. -/
  | setting (s : Setting)
deriving DecidableEq, Repr

/-- The option of a name. -/
def Choice.ofName? (name : String) : Option Choice :=
  match name with
  | "help" => some .help
  | "version" => some .version
  | name => (Setting.all.find? (·.name == name)).map .setting

/-- The option of a letter. -/
def Choice.ofLetter? (c : Char) : Option Choice :=
  match c with
  | 'h' => some .help
  | 'V' => some .version
  | c => (Setting.all.find? (·.letter? == some c)).map .setting

/-- Whether the option takes no value. -/
def Choice.isBare : Choice → Bool
  | .setting s => s.counts
  | _ => true

/-- How far the arguments are read. -/
structure Reading where
  /-- The settings that are given so far. -/
  given : Given
  /-- The setting whose value was waited for, and the value if it came. -/
  pending : Option (Setting × Option String)

namespace Reading

/-- Before the first argument. -/
def start : Reading := ⟨.empty, none⟩

/-- Puts in the value of a setting that was not given before. -/
def put (g : Given) (s : Setting) (value : String) : Except Stop Given :=
  if g.has s then .error (.repeated s)
  else if s.admits value then .ok (g.insert s value)
  else .error (.badValue s value)

/-- The settings with what was waited for. -/
def settled (r : Reading) : Except Stop Given :=
  match r.pending with
  | none => .ok r.given
  | some (s, none) => .error (.valueMissing s)
  | some (s, some value) => put r.given s value

/-- Counts an option once more. -/
def countUp (g : Given) (s : Setting) : Except Stop Given :=
  let times := ((g.get? s).bind readVerbosity?).getD 0
  let value := Text.numeral (times + 1)
  if s.admits value then .ok (g.insert s value) else .error (.badValue s value)

/-- Takes an option without a value. -/
def bare (r : Reading) (long : Bool) (choice : Choice) : Except Stop Reading := do
  let g ← r.settled
  match choice with
  | .help => .error .help
  | .version => .error (.version long)
  | .setting s => return ⟨← countUp g s, none⟩

/-- Takes an option with its value, or waits for it. -/
def valued (r : Reading) (s : Setting) (value : Option String) : Except Stop Reading := do
  let g ← r.settled
  match value with
  | some value => return ⟨← put g s value, none⟩
  | none => return ⟨g, some (s, none)⟩

/-- Takes an option given by its name. -/
def long (r : Reading) (name : List Char) (value : Option (List Char)) : Except Stop Reading :=
  let name := String.ofList name
  match Choice.ofName? name, value with
  | none, _ => .error (.unknown ("--" ++ name))
  | some (.setting s), value =>
    if !s.counts then r.valued s (value.map String.ofList)
    else if value.isSome then .error (.surplusValue name)
    else r.bare true (.setting s)
  | some _, some _ => .error (.surplusValue name)
  | some choice, none => r.bare true choice

/-- The value right after a letter, without the equals sign between them. -/
def attached? : List Char → Option String
  | [] => none
  | '=' :: value => some (String.ofList value)
  | value => some (String.ofList value)

/-- Takes the options given by letters. -/
def letters (r : Reading) : List Char → Except Stop Reading
  | [] => .ok r
  | c :: rest =>
    match Choice.ofLetter? c with
    | none => .error (.unknown (String.ofList ['-', c]))
    | some (.setting s) =>
      if s.counts then do
        let r ← r.bare false (.setting s)
        r.letters rest
      else r.valued s (attached? rest)
    | some choice => r.bare false choice

/-- Takes an argument that is no option: the value that is waited for. -/
def plain (r : Reading) (argument : String) : Except Stop Reading :=
  match r.pending with
  | some (s, none) => .ok ⟨r.given, some (s, some argument)⟩
  | _ => .error (.unknown argument)

/-- Takes an argument other than `--`. -/
def next (r : Reading) (argument : String) : Except Stop Reading :=
  match argument.toList with
  | '-' :: '-' :: option =>
    match Text.cut? '=' option with
    | some (name, value) => r.long name (some value)
    | none => r.long option none
  | '-' :: c :: rest => r.letters (c :: rest)
  | _ => r.plain argument

/-- Reads the arguments to their end. -/
def arguments (r : Reading) : List String → Except Stop Given
  | [] => r.settled
  | argument :: rest =>
    if argument = "--" then
      match rest with
      | [] => r.settled
      | surplus :: _ => .error (.unknown surplus)
    else do
      let r ← r.next argument
      r.arguments rest

end Reading

/-! ### The environment and what must be given -/

/-- Looks settings that are not given up in the environment. -/
def complete (environment : String → Option String) (g : Given) :
    List Setting → Except Stop Given
  | [] => .ok g
  | s :: rest =>
    if g.has s then complete environment g rest
    else
      match environment s.variableName with
      | none => complete environment g rest
      | some value => do complete environment (← Reading.put g s value) rest

/-- Checks that one store is given: a database or the analytics service, but not
    both. Whatever is given of the analytics service needs the rest of it. -/
def checkStore (g : Given) : Except Stop Unit :=
  if g.has .dsn && g.has .countUrl then .error .twoStores
  else if !g.has .dsn && !g.has .countUrl then .error .noStore
  else if Setting.analytics.any g.has &&
      !(Setting.analytics.all fun s => g.has s || (s == .countUrl && g.has .dsn)) then
    .error .noStore
  else .ok ()

/-- The settings that arguments and environment give, of which the arguments
    count first. -/
def read (environment : String → Option String) (arguments : List String) :
    Except Stop Given := do
  let g ← Reading.start.arguments arguments
  let g ← complete environment g Setting.all
  checkStore g
  return g

end LoginGate.CommandLine
