import Checkup.Glob
import Checkup.Shell.State

/-!
# Machines

A machine is a file tree with a search path and a few programs of its own. Running an argument
vector finds a program and gives what it writes to its standard output; scripts run on their
interpreter, and nothing that runs changes the tree.
-/

namespace Checkup.Shell

structure Machine where
  tree : FileTree
  /-- The directories in which a program is looked for that is named without a slash. -/
  searchPath : List Path

/-- The programs that every machine has. -/
def systemNames : List String :=
  ["sh", "cat", "echo", "printf", "true", "false", "test", "[", "sleep", "seq", "env"]

def systemDirectories : List Path := [.ofString "/bin", .ofString "/usr/bin"]

inductive Program where
  | system (name : String)
  /-- A file that begins with the name of its interpreter. -/
  | script (file : Path) (interpreter : Path) (argument : Option (List Char))

/-- Reads the first line of a script. -/
def interpreter? (content : Bytes) : Option (Path × Option (List Char)) :=
  match Bytes.toChars content with
  | '#' :: '!' :: rest =>
    let line := (rest.takeWhile (· ≠ '\n')).dropWhile isBlank
    let name := line.takeWhile (!isBlank ·)
    let argument := (line.drop name.length).dropWhile isBlank
    let argument := (argument.reverse.dropWhile isBlank).reverse
    if name.isEmpty then none
    else some (⟨Bytes.ofChars name⟩, if argument.isEmpty then none else some argument)
  | _ => none

/-! ## Arguments and patterns -/

/-- Whether an argument of the shell holds options. -/
def isOption (argument : List Char) : Bool :=
  match argument with
  | '-' :: letters => !letters.isEmpty && letters.all Char.isAlpha
  | _ => false

/-- The pieces of a pattern; a text that is none stands for itself. -/
def patternPieces (text : List Char) : List Glob.Piece :=
  (Glob.segmentPieces? text).getD (text.map .char)

/-- The pieces of a pattern of an arm. What is quoted stands for itself. -/
def armPieces (word : Word) (text : List Char) : List Glob.Piece :=
  if word.isQuoted then text.map .char else patternPieces text

/-- Cuts the shortest or the longest piece that matches. -/
def Trim.apply (trim : Trim) (pieces : List Glob.Piece) (value : List Char) : List Char :=
  let places := List.range (value.length + 1)
  let places := if trim.atEnd = trim.longest then places else places.reverse
  if trim.atEnd then
    match places.find? fun place => Glob.matchesName pieces (value.drop place) with
    | some place => value.take place
    | none => value
  else
    match places.find? fun place => Glob.matchesName pieces (value.take place) with
    | some place => value.drop place
    | none => value

namespace Machine

def system? (path : Path) : Option String :=
  systemNames.find? fun name =>
    systemDirectories.any fun directory =>
      path.components = (directory.join (.ofString name)).components

def programAt (machine : Machine) (path : Path) : Except FileError Program :=
  match system? path with
  | some name => .ok (.system name)
  | none => do
    match ← machine.tree.locate path with
    | (_, .directory) => throw .notPermitted
    | (_, .file content executable) =>
      if !executable then throw .notPermitted
      match interpreter? content with
      | some (interpreter, argument) => return .script path interpreter argument
      | none => throw .unknownFormat

/-- Looks through the search path. A program that may not be run is passed over, but remembered. -/
def search (machine : Machine) (name : Path) : List Path → Except FileError Program
  | [] => .error .notFound
  | directory :: rest =>
    match machine.programAt (directory.join name) with
    | .ok program => .ok program
    | .error .unknownFormat => .error .unknownFormat
    | .error error =>
      match machine.search name rest with
      | .error .notFound => .error (if error = .notPermitted then .notPermitted else .notFound)
      | result => result

def program (machine : Machine) (name : Path) : Except FileError Program :=
  if name.text.isEmpty then .error .notFound
  else if name.text.contains Path.slash then machine.programAt name
  else if FileTree.maxNameLength < name.text.length then .error .nameTooLong
  else machine.search name machine.searchPath

def readChars (machine : Machine) (name : List Char) : Except FileError (List Char) :=
  if name = "/dev/null".toList then .ok []
  else (machine.tree.read ⟨Bytes.ofChars name⟩).map Bytes.toChars

mutual

/-- Adds the fields of the parts of a word. -/
def expand (machine : Machine) : (turns : Nat) → State → Word → Fields → Option Fields
  | 0, _, _, _ => none
  | _ + 1, _, [], fields => some fields
  | turns + 1, state, part :: parts, fields => do
    let fields ←
      match part with
      | .literal text _ => some (fields.append text)
      | .parameter ['@'] _ _ true => some (fields.appendParameters state.parameters)
      | .parameter name fallback whenEmpty quoted =>
        let value := state.parameter? name
        match fallback with
        | some source =>
          if value.all fun text => whenEmpty && text.isEmpty then do
            let word ← documentWord? source
            let inside ← machine.expand turns state word {}
            some (fields.appendValue quoted (spaced inside.toList))
          else some (fields.appendValue quoted (value.getD []))
        | none => some (fields.appendValue quoted (value.getD []))
      | .length name quoted =>
        let length := ((state.parameter? name).getD []).length
        some (fields.appendValue quoted (State.digitsOf length))
      | .trimmed name trim quoted => do
        let pattern := spaced
          (← machine.expand turns state (← documentWord? trim.pattern) {}).toList
        let value := (state.parameter? name).getD []
        some (fields.appendValue quoted (trim.apply (patternPieces pattern) value))
      | .arithmetic source quoted => do
        let word ← documentWord? source
        let text := spaced (← machine.expand turns state word {}).toList
        let number ← Arithmetic.evaluate? (fun name => (state.parameter? name).getD []) text
        some (fields.appendValue quoted (toString number).toList)
      | .output source quoted => do
        let command ← readScript? source
        let (ended, _) := machine.execute turns command state.inner
        let text := (ended.written.toList.reverse.dropWhile (· == '\n')).reverse
        some (fields.appendValue quoted text)
    machine.expand turns state parts fields

/-- The text of a word that is not split. -/
def expandText (machine : Machine) : (turns : Nat) → State → Word → Option (List Char)
  | 0, _, _ => none
  | turns + 1, state, word =>
    let quoted (part : Part) : Part :=
      match part with
      | .literal text _ => .literal text true
      | .parameter name fallback whenEmpty _ => .parameter name fallback whenEmpty true
      | .length name _ => .length name true
      | .trimmed name trim _ => .trimmed name trim true
      | .arithmetic source _ => .arithmetic source true
      | .output source _ => .output source true
    (machine.expand turns state (word.map quoted) {}).map fun fields => spaced fields.toList

def expandAll (machine : Machine) : (turns : Nat) → State → List Word → Option (List (List Char))
  | 0, _, _ => none
  | _ + 1, _, [] => some []
  | turns + 1, state, word :: words => do
    let fields ← machine.expand turns state word {}
    return fields.toList ++ (← machine.expandAll turns state words)

def assignAll (machine : Machine) :
    (turns : Nat) → State → List (List Char × Word) → Option State
  | 0, _, _ => none
  | _ + 1, state, [] => some state
  | turns + 1, state, (name, word) :: rest => do
    machine.assignAll turns (state.assign name (← machine.expandText turns state word)) rest

/-- Turns the streams. -/
def redirect (machine : Machine) : (turns : Nat) → State → List Redirection → Option State
  | 0, _, _ => none
  | _ + 1, state, [] => some state
  | turns + 1, state, redirection :: rest => do
    let state ←
      match redirection with
      | .toFile stream _ =>
        some (if stream = 1 then { state with out := .discarded }
          else if stream = 2 then { state with err := .discarded } else state)
      | .toStream stream other => do
        let other ← machine.expandText turns state other
        let sink : Sink :=
          if other = ['1'] then state.out else if other = ['2'] then state.err else .discarded
        some (if stream = 1 then { state with out := sink }
          else if stream = 2 then { state with err := sink } else state)
      | .fromFile file => do
        let name ← machine.expandText turns state file
        let input ← (machine.readChars name).toOption
        some { state with input }
      | .fromText text => do
        some { state with input := ← machine.expandText turns state text }
    machine.redirect turns state rest

def execute (machine : Machine) : (turns : Nat) → Command → State → State × Flow
  | 0, _, state => (state, .leaveScript)
  | turns + 1, command, state =>
    let failed : State × Flow := ({ state with status := 2 }, .leaveScript)
    match command with
    | .nothing => ({ state with status := 0 }, .onward)
    | .simple assignments words redirections =>
      match machine.assignAll turns state assignments, machine.expandAll turns state words with
      | some assigned, some (name :: arguments) =>
        match machine.redirect turns assigned redirections with
        | some turned =>
          if name = "exec".toList ∧ arguments.isEmpty then ({ turned with status := 0 }, .onward)
          else
            let (ended, flow) := machine.call turns name arguments turned
            let ended := { ended with
              out := state.out, err := state.err
              input := if redirections.isEmpty then ended.input else state.input }
            (ended, if flow = .onward then ended.flow else flow)
        | none =>
          let failed := { state with status := 2 }
          (failed, failed.flow)
      | some assigned, some [] => ({ assigned with status := 0 }, .onward)
      | _, _ => failed
    | .redirected body redirections =>
      match machine.redirect turns state redirections with
      | some turned =>
        let (ended, flow) := machine.execute turns body turned
        ({ ended with out := state.out, err := state.err, input := state.input }, flow)
      | none => ({ state with status := 2 }, .onward)
    | .sequence first second =>
      match machine.execute turns first state with
      | (state, .onward) => machine.execute turns second state
      | result => result
    | .both first second =>
      match machine.test turns first state with
      | (state, .onward) =>
        if state.status = 0 then machine.execute turns second state else (state, .onward)
      | result => result
    | .either first second =>
      match machine.test turns first state with
      | (state, .onward) =>
        if state.status = 0 then (state, .onward) else machine.execute turns second state
      | result => result
    | .negated body =>
      match machine.test turns body state with
      | (state, .onward) => (state.withStatus (state.status ≠ 0), .onward)
      | result => result
    | .pipe source sink =>
      let (piped, _) := machine.execute turns source state.inner
      let inner := { state.inner with out := state.out, input := piped.written.toList }
      let (ended, _) := machine.execute turns sink inner
      let state := { state.write ended.written.toList with status := ended.status }
      (state, state.flow)
    | .subshell body =>
      let (ended, _) := machine.execute turns body state.inner
      let state := { state.write ended.written.toList with
        status := ended.status, input := ended.input }
      (state, state.flow)
    | .choose test positive negative =>
      match machine.test turns test state with
      | (state, .onward) =>
        machine.execute turns (if state.status = 0 then positive else negative) state
      | result => result
    | .loop whileFails test body =>
      match machine.test turns test state with
      | (tested, .onward) =>
        if (tested.status = 0) = whileFails then ({ tested with status := 0 }, .onward)
        else
          match machine.execute turns body tested with
          | (state, .onward) | (state, .nextTurn 0) | (state, .nextTurn 1) =>
            machine.execute turns (.loop whileFails test body) state
          | (state, .leaveLoop depth) =>
            (state, if depth ≤ 1 then .onward else .leaveLoop (depth - 1))
          | (state, .nextTurn depth) => (state, .nextTurn (depth - 1))
          | result => result
      | result => result
    | .forEach name items body =>
      match items with
      | none => machine.forEach turns name state.parameters body state
      | some words =>
        match machine.expandAll turns state words with
        | some texts => machine.forEach turns name texts body state
        | none => failed
    | .whenMatches subject patterns body otherwise =>
      match machine.expandText turns state subject with
      | none => failed
      | some text =>
        let matched := patterns.any fun pattern =>
          (machine.expandText turns state pattern).any fun shape =>
            Glob.matchesName (armPieces pattern shape) text
        machine.execute turns (if matched then body else otherwise) state
    | .define name body =>
      ({ state with functions := (name, body) :: state.functions, status := 0 }, .onward)

/-- Runs a command whose failure decides how to go on and so ends nothing. -/
def test (machine : Machine) : (turns : Nat) → Command → State → State × Flow
  | 0, _, state => (state, .leaveScript)
  | turns + 1, command, state =>
    let (ended, flow) := machine.execute turns command { state with failsFast := false }
    ({ ended with failsFast := state.failsFast }, flow)

/-- Runs the body once for each text. -/
def forEach (machine : Machine) : (turns : Nat) → (name : List Char) → List (List Char) →
    Command → State → State × Flow
  | 0, _, _, _, state => (state, .leaveScript)
  | _ + 1, _, [], _, state => (state, .onward)
  | turns + 1, name, text :: texts, body, state =>
    match machine.execute turns body (state.assign name text) with
    | (state, .onward) | (state, .nextTurn 0) | (state, .nextTurn 1) =>
      machine.forEach turns name texts body state
    | (state, .leaveLoop depth) => (state, if depth ≤ 1 then .onward else .leaveLoop (depth - 1))
    | (state, .nextTurn depth) => (state, .nextTurn (depth - 1))
    | result => result

/-- Runs a function, a command of the shell or a program. -/
def call (machine : Machine) : (turns : Nat) → (name : List Char) → List (List Char) → State →
    State × Flow
  | 0, _, _, state => (state, .leaveScript)
  | turns + 1, name, arguments, state =>
    match state.functions.lookup name with
    | some body =>
      let (ended, flow) := machine.execute turns body { state with parameters := arguments }
      ({ ended with parameters := state.parameters },
        if flow = .leaveFunction then .onward else flow)
    | none =>
      match builtin? machine.tree (String.ofList name) arguments state with
      | some result => result
      | none =>
        let source? : Option (Except FileError (List Char)) :=
          match String.ofList name, arguments with
          | "eval", words => some (.ok (spaced words))
          | ".", file :: _ => some (machine.readChars file)
          | _, _ => none
        match source? with
        | some source =>
          match source.toOption.bind readScript? with
          | some command => machine.execute turns command state
          | none => ({ state with status := 2 }, .leaveScript)
        | none =>
          let isExec : Bool := name = "exec".toList
          let vector := if isExec || name = "command".toList then arguments else name :: arguments
          match vector, machine.spawn turns vector state.input with
          | [], _ => ({ state with status := 0 }, .onward)
          | _, .ok (text, status) =>
            ({ state.write text with status }, if isExec then .leaveScript else .onward)
          | _, .error error =>
            ({ state with status := if error = .notFound then 127 else 126 },
              if isExec then .leaveScript else .onward)

/-- Runs an argument vector and gives what it wrote and its exit status. -/
def spawn (machine : Machine) : (turns : Nat) → (vector : List (List Char)) → (input : List Char) →
    Except FileError (List Char × Nat)
  | 0, _, _ => .ok ([], 1)
  | _ + 1, [], _ => .error .notFound
  | turns + 1, name :: arguments, input => do
    match ← machine.program ⟨Bytes.ofChars name⟩ with
    | .script file interpreter argument =>
      machine.spawn turns
        (Bytes.toChars interpreter.text :: argument.toList ++ Bytes.toChars file.text :: arguments)
        input
    | .system "sh" =>
      let options := (arguments.takeWhile isOption).flatten
      let start := State.withOptions { input } ('-' :: options)
      let run (source : List Char) (start : State) : Except FileError (List Char × Nat) :=
        match readScript? source with
        | none => .ok ([], 2)
        | some command =>
          let (ended, _) := machine.execute turns command start
          .ok (ended.written.toList, ended.status)
      match arguments.dropWhile isOption, options.contains 'c' with
      | [source], true => run source { start with scriptName := name }
      | source :: scriptName :: parameters, true => run source { start with scriptName, parameters }
      | [], true => return ([], 2)
      | file :: parameters, false =>
        match machine.readChars file with
        | .ok source => run source { start with scriptName := file, parameters }
        | .error _ => return ([], 127)
      | [], false => run input { start with input := [] }
    | .system "cat" =>
      let files := if arguments.isEmpty then [['-']] else arguments
      let texts := files.map fun file =>
        if file = ['-'] then .ok input else machine.readChars file
      return (texts.flatMap fun text => text.toOption.getD [],
        if texts.all Except.isOk then 0 else 1)
    | .system "echo" =>
      match arguments with
      | ['-', 'n'] :: rest => return (spaced rest, 0)
      | _ => return (spaced arguments ++ ['\n'], 0)
    | .system "seq" =>
      match arguments.map integer? with
      | [some last] => return (numberLines 1 last, 0)
      | [some first, some last] => return (numberLines first last, 0)
      | _ => return ([], 1)
    | .system "env" =>
      match arguments with
      | [] => return ([], 0)
      | vector =>
        match machine.spawn turns vector input with
        | .ok result => return result
        | .error _ => return ([], 127)
    | .system other =>
      match builtin? machine.tree other arguments { input } with
      | some (ended, _) => return (ended.written.toList, ended.status)
      | none => return ([], 127)

end

/-- How deep and how long scripts may run. -/
def maxTurns : Nat := 1000000

/-- Runs an argument vector without any input and gives what it wrote. -/
def run (machine : Machine) (vector : List String) : Except FileError Bytes := do
  if vector.any fun argument => argument.toList.contains '\x00' then throw .zeroByte
  let words := vector.map fun argument => Bytes.toChars (Bytes.ofString argument)
  let (text, _) ← machine.spawn maxTurns words []
  return Bytes.ofChars text

end Machine

end Checkup.Shell
