import Checkup.Shell.Builtin
import Checkup.Shell.Script

/-!
# The state of a running script

Variables, parameters and streams. Of what is written only what reaches the standard output of
the whole run is kept.
-/

namespace Checkup.Shell

inductive Sink where
  | kept
  | discarded
  deriving DecidableEq, Repr

structure State where
  written : Array Char := #[]
  out : Sink := .kept
  err : Sink := .discarded
  input : List Char := []
  values : List (List Char × List Char) := []
  functions : List (List Char × Command) := []
  scriptName : List Char := []
  parameters : List (List Char) := []
  status : Nat := 0
  /-- Whether a command that fails ends the script. -/
  failsFast : Bool := false

/-- What happens behind a command. -/
inductive Flow where
  | onward
  | leaveScript
  | leaveFunction
  | leaveLoop (depth : Nat)
  | nextTurn (depth : Nat)
  deriving DecidableEq, Repr

namespace State

def write (state : State) (text : List Char) : State :=
  match state.out with
  | .kept => { state with written := state.written ++ text.toArray }
  | .discarded => state

def assign (state : State) (name value : List Char) : State :=
  { state with values := (name, value) :: state.values.filter (·.1 ≠ name) }

def unset (state : State) (name : List Char) : State :=
  { state with values := state.values.filter (·.1 ≠ name) }

/-- The number by which a script knows its own process. -/
def processNumber : List Char := ['1']

def digitsOf (number : Nat) : List Char := (toString number).toList

def parameter? (state : State) (name : List Char) : Option (List Char) :=
  match name with
  | ['#'] => some (digitsOf state.parameters.length)
  | ['?'] => some (digitsOf state.status)
  | ['$'] => some processNumber
  | ['@'] | ['*'] => if state.parameters.isEmpty then none else some (spaced state.parameters)
  | ['0'] => some state.scriptName
  | _ =>
    if name.all Char.isDigit then state.parameters[natOfDigits name - 1]?
    else state.values.lookup name

def withStatus (state : State) (holds : Bool) : State :=
  { state with status := if holds then 0 else 1 }

/-- Takes options of the shell, of which only one changes what is written. -/
def withOptions (state : State) (options : List Char) : State :=
  match options with
  | '-' :: letters => { state with failsFast := state.failsFast || letters.contains 'e' }
  | '+' :: letters => { state with failsFast := state.failsFast && !letters.contains 'e' }
  | _ => state

/-- What a script does behind a command that came to its end. -/
def flow (state : State) : Flow :=
  if state.failsFast && state.status ≠ 0 then .leaveScript else .onward

/-- A script of its own with the same variables, of which only the output comes back. -/
def inner (state : State) : State := { state with written := #[], out := .kept }

end State

/-! ## Fields -/

/-- The fields that a word makes: those that are finished, and one that may go on. -/
structure Fields where
  finished : List (List Char) := []
  growing : Option (List Char) := none

namespace Fields

def append (fields : Fields) (text : List Char) : Fields :=
  { fields with growing := some (fields.growing.getD [] ++ text) }

def close (fields : Fields) : Fields :=
  match fields.growing with
  | none => fields
  | some text => { finished := fields.finished ++ [text] }

/-- A value outside of quotes is split at its blanks. -/
def appendSplit (fields : Fields) (value : List Char) : Fields :=
  value.foldl
    (fun fields char => if isSpaceOrLine char then fields.close else fields.append [char]) fields

def appendValue (fields : Fields) (quoted : Bool) (value : List Char) : Fields :=
  if quoted then fields.append value else fields.appendSplit value

/-- In quotes every parameter is a field of its own. -/
def appendParameters (fields : Fields) (parameters : List (List Char)) : Fields :=
  match parameters with
  | [] => fields
  | first :: rest => rest.foldl (fun fields text => fields.close.append text) (fields.append first)

def toList (fields : Fields) : List (List Char) := fields.close.finished

end Fields

/-! ## Commands that need nothing but the state -/

def amount (arguments : List (List Char)) (default : Nat) : Nat :=
  match arguments with
  | argument :: _ => ((integer? argument).map Int.toNat).getD default
  | [] => default

/-- Splits an argument that assigns. -/
def splitAssignment (argument : List Char) : List Char × Option (List Char) :=
  match argument.dropWhile (· ≠ '=') with
  | _ :: value => (argument.takeWhile (· ≠ '='), some value)
  | [] => (argument, none)

/-- Gives the words of a line to names, the last of which takes what is left. -/
def assignWords (state : State) : (names : List (List Char)) → (line : List Char) → State
  | [], _ => state
  | [name], line =>
    let line := line.dropWhile isBlank
    state.assign name (line.reverse.dropWhile isBlank).reverse
  | name :: names, line =>
    let line := line.dropWhile isBlank
    assignWords (state.assign name (line.takeWhile (!isBlank ·))) names
      (line.dropWhile (!isBlank ·))

def readLine (state : State) (names : List (List Char)) : State :=
  let line := state.input.takeWhile (· ≠ '\n')
  let rest := state.input.drop line.length
  let state := assignWords state (names.filter (·.head? ≠ some '-')) line
  { state with input := rest.drop 1, status := if rest.isEmpty then 1 else 0 }

def builtin? (tree : FileTree) (name : String) (arguments : List (List Char)) (state : State) :
    Option (State × Flow) :=
  let done (state : State) : Option (State × Flow) := some ({ state with status := 0 }, .onward)
  let tested (arguments : List (List Char)) : Option (State × Flow) :=
    match holds? tree arguments with
    | some result => some (state.withStatus result, .onward)
    | none => some ({ state with status := 2 }, .onward)
  match name with
  | ":" | "true" | "sleep" | "wait" | "trap" | "umask" | "cd" => done state
  | "false" => some ({ state with status := 1 }, .onward)
  | "echo" => done (state.write (echoed arguments))
  | "printf" => done (state.write (printed arguments))
  | "test" => tested arguments
  | "[" =>
    if arguments.getLast? = some [']'] then tested arguments.dropLast
    else some ({ state with status := 2 }, .onward)
  | "exit" => some ({ state with status := amount arguments state.status }, .leaveScript)
  | "return" => some ({ state with status := amount arguments state.status }, .leaveFunction)
  | "break" => some (state, .leaveLoop (amount arguments 1))
  | "continue" => some (state, .nextTurn (amount arguments 1))
  | "shift" => done { state with parameters := state.parameters.drop (amount arguments 1) }
  | "set" =>
    match arguments with
    | ['-', '-'] :: parameters => done { state with parameters }
    | argument :: _ =>
      if argument.head? = some '-' ∨ argument.head? = some '+' then
        done (state.withOptions argument)
      else done { state with parameters := arguments }
    | [] => done state
  | "read" => some (readLine state arguments, .onward)
  | "export" | "local" | "readonly" =>
    done (arguments.foldl (fun state argument =>
      match splitAssignment argument with
      | (name, some value) => state.assign name value
      | (_, none) => state) state)
  | "unset" => done (arguments.foldl State.unset state)
  | "kill" =>
    if arguments.contains State.processNumber then some ({ state with status := 137 }, .leaveScript)
    else some ({ state with status := 1 }, .onward)
  | _ => none

end Checkup.Shell
