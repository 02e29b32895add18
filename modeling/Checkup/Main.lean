import Checkup.Program
import Checkup.Shell.Machine

/-!
# The command

Checks files of the working directory. Their names come on the standard input, one on a line, and
files that begin with the name of an interpreter are tools.
-/

namespace Checkup.Main

partial def readNames (input : IO.FS.Stream) (names : List String) : IO (List String) := do
  let line ← input.getLine
  if line.isEmpty then return names.reverse
  readNames input (String.ofList (line.toList.filter (· ≠ '\n')) :: names)

/-- Adds a file to a tree if it can be read. -/
def addFile (tree : FileTree) (name : String) : IO FileTree := do
  try
    let content := (← IO.FS.readBinFile name).toList
    let path := Path.ofString name
    let start := if path.isAbsolute then [] else tree.workingDirectory
    let place := FileTree.placeBelow start path.normalize
    return tree.withFile place content (Shell.interpreter? content).isSome
  catch _ => return tree

def loadTree : IO FileTree := do
  let directory := FileTree.placeBelow [] (.ofString (toString (← IO.currentDir)))
  let start : FileTree := { workingDirectory := directory }
  (← readNames (← IO.getStdin) []).foldlM addFile (start.withDirectories directory)

def searchPath : IO (List Path) := do
  let directories := ((← IO.getEnv "PATH").getD "").splitOn ":"
  return (directories.filter (!·.isEmpty)).map Path.ofString

def runCommand (command : CommandLine.Command) : IO UInt32 := do
  let tree ← loadTree
  let machine : Shell.Machine := ⟨tree, ← searchPath⟩
  let outcome := Program.run ⟨tree, machine.run, (← IO.getEnv "NO_COLOR").isNone⟩ command
  IO.print outcome.output
  IO.eprint outcome.errors
  return outcome.exitCode.toUInt32

end Checkup.Main

def main (arguments : List String) : IO UInt32 :=
  match Checkup.CommandLine.read arguments with
  | .ok command => Checkup.Main.runCommand command
  | .error refusal => do
    if refusal.exitCode = 0 then IO.print refusal.message else IO.eprint refusal.message
    return refusal.exitCode.toUInt32
