/-!
# The command line

A command has options and perhaps paths behind its name. An option with a value takes it from
behind an equals sign or from the next word that is no option. Behind `--` every word is a path.
-/

namespace Checkup.CommandLine

/-- Why a command line names no command to run. The first three ask for a text instead. -/
inductive Refusal where
  | help
  | version
  | helpForNothing
  | unknownCommand
  | unknownArgument
  | missingPaths
  | missingValue
  | excessValue
  | repeated
  deriving DecidableEq, Repr

/-- Asking for a text is no failure, but giving nothing is. -/
def Refusal.exitCode : Refusal → Nat
  | .help | .version => 0
  | _ => 2

def usage : String :=
  "Usage: phpcheck <COMMAND>\n\nCommands:\n  version  Show version\n  sniff    Analyse files\n" ++
    "  config   Print effective settings\n  help     Print this message\n"

/-- What is told instead of running a command. -/
def Refusal.message : Refusal → String
  | .help | .helpForNothing => usage
  | .version => "phpcheck 0.1.0\n"
  | .unknownCommand => "error: unrecognized subcommand\n\n" ++ usage
  | .unknownArgument => "error: unexpected argument\n\n" ++ usage
  | .missingPaths => "error: no paths were given\n\n" ++ usage
  | .missingValue => "error: an option lacks its value\n\n" ++ usage
  | .excessValue => "error: a flag takes no value\n\n" ++ usage
  | .repeated => "error: an option cannot be used multiple times\n\n" ++ usage

structure SniffOptions where
  repoRoot : Option String := none
  output : Option String := none
  pick : Bool := false
  onSave : Bool := false
  debug : Bool := false
  noLinter : Bool := false
  noSniffer : Bool := false
  noMessDetector : Bool := false
  paths : List String
  deriving DecidableEq, Repr

inductive Command where
  | version
  | config (repoRoot : Option String)
  | sniff (options : SniffOptions)
  deriving DecidableEq, Repr

/-! ## Options -/

/-- What may stand behind the name of a command. -/
structure Grammar where
  flags : List String := []
  valued : List String := []
  takesPaths : Bool := false

/-- The words read so far. -/
structure Reading where
  given : List (String × String) := []
  paths : List String := []
  /-- The last option, with its value if that has come. It is taken in when the next one begins. -/
  pending : Option (String × Option String) := none

namespace Reading

def give (reading : Reading) (name value : String) : Except Refusal Reading :=
  if (reading.given.lookup name).isSome then .error .repeated
  else .ok { reading with given := reading.given ++ [(name, value)] }

/-- Takes in the pending option. -/
def settle (reading : Reading) : Except Refusal Reading :=
  match reading.pending with
  | none => .ok reading
  | some (_, none) => .error .missingValue
  | some (name, some value) => { reading with pending := none }.give name value

def addPaths (reading : Reading) (grammar : Grammar) (paths : List String) :
    Except Refusal Reading := do
  if paths.isEmpty then return reading
  if !grammar.takesPaths then throw .unknownArgument
  let reading ← reading.settle
  return { reading with paths := reading.paths ++ paths }

/-- Reads the name of an option and what stands behind its equals sign. -/
def long (reading : Reading) (grammar : Grammar) (name : String) (attached : Option String) :
    Except Refusal Reading := do
  if name = "help" ∨ name ∈ grammar.flags then
    if attached.isSome then throw .excessValue
    let reading ← reading.settle
    if name = "help" then throw .help
    reading.give name ""
  else if name ∈ grammar.valued then
    let reading ← reading.settle
    match attached with
    | some value => reading.give name value
    | none => return { reading with pending := some (name, none) }
  else throw .unknownArgument

/-- Reads letters behind a single hyphen, of which only the one for help is known. -/
def short (reading : Reading) (letters : List Char) : Except Refusal Reading := do
  if letters.head? = some 'h' then
    let _ ← reading.settle
    throw .help
  else throw .unknownArgument

def plain (reading : Reading) (grammar : Grammar) (word : String) : Except Refusal Reading :=
  match reading.pending with
  | some (name, none) => .ok { reading with pending := some (name, some word) }
  | _ => reading.addPaths grammar [word]

end Reading

/-- A word by its hyphens. -/
inductive Word where
  | separator
  | long (name : String) (attached : Option String)
  | short (letters : List Char)
  | plain

def Word.ofString (text : String) : Word :=
  match text.toList with
  | ['-', '-'] => .separator
  | '-' :: '-' :: rest =>
    let name := String.ofList (rest.takeWhile (· ≠ '='))
    match rest.dropWhile (· ≠ '=') with
    | _ :: value => .long name (some (String.ofList value))
    | [] => .long name none
  | '-' :: letter :: letters => .short (letter :: letters)
  | _ => .plain

def readOptions (grammar : Grammar) : Reading → List String → Except Refusal Reading
  | reading, [] => reading.settle
  | reading, word :: rest =>
    match Word.ofString word with
    | .separator => do (← reading.addPaths grammar rest).settle
    | .long name attached => do readOptions grammar (← reading.long grammar name attached) rest
    | .short letters => do readOptions grammar (← reading.short letters) rest
    | .plain => do readOptions grammar (← reading.plain grammar word) rest

/-! ## Commands -/

def helpName : String := "help"

def sniffGrammar : Grammar where
  flags := ["pick", "on-save", "debug", "no-syntax", "no-style", "no-complexity"]
  valued := ["repo-root", "output"]
  takesPaths := true

def readSniff (words : List String) : Except Refusal SniffOptions := do
  let reading ← readOptions sniffGrammar {} words
  if reading.paths.isEmpty then throw .missingPaths
  let has (name : String) : Bool := (reading.given.lookup name).isSome
  return {
    repoRoot := reading.given.lookup "repo-root"
    output := reading.given.lookup "output"
    pick := has "pick"
    onSave := has "on-save"
    debug := has "debug"
    noLinter := has "no-syntax"
    noSniffer := has "no-style"
    noMessDetector := has "no-complexity"
    paths := reading.paths }

/-- How a command reads the words behind its name. -/
def command? (name : String) : Option (List String → Except Refusal Command) :=
  match name with
  | "version" => some fun words => (readOptions {} {} words).map fun _ => .version
  | "config" => some fun words =>
    (readOptions { valued := ["repo-root"] } {} words).map fun reading =>
      .config (reading.given.lookup "repo-root")
  | "sniff" => some fun words => (readSniff words).map .sniff
  | _ => none

def isKnown (name : String) : Bool := name = helpName || (command? name).isSome

/-- Help can be asked for about one known command. -/
def helpRefusal : List String → Refusal
  | [] => .help
  | [name] => if isKnown name then .help else .unknownCommand
  | _ => .unknownCommand

/-- A word in place of the name of a command. -/
def leadingRefusal (word : String) (rest : List String) : Refusal :=
  match Word.ofString word with
  | .separator =>
    match rest with
    | [] => .helpForNothing
    | name :: _ => if isKnown name then .unknownArgument else .unknownCommand
  | .long name attached =>
    if name = "help" ∨ name = "version" then
      if attached.isSome then .excessValue else if name = "help" then .help else .version
    else .unknownArgument
  | .short ('h' :: _) => .help
  | .short ('V' :: _) => .version
  | .short _ => .unknownArgument
  | .plain => .unknownCommand

/-- The command that the words give. -/
def read : List String → Except Refusal Command
  | [] => .error .helpForNothing
  | word :: rest =>
    if word = helpName then .error (helpRefusal rest)
    else
      match command? word with
      | some readCommand => readCommand rest
      | none => .error (leadingRefusal word rest)

end Checkup.CommandLine
