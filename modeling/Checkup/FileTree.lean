import Checkup.Path

/-!
# File trees

Files and directories without links between them. A path is followed segment by segment: `..`
leads to the directory above, and nothing lies below a file. What may not be read is there, but
neither its content nor its names can be told.
-/

namespace Checkup

inductive FileError where
  | notFound
  | unknownFormat
  | notPermitted
  | notDirectory
  | isDirectory
  | nameTooLong
  | zeroByte
  | notText
  deriving DecidableEq, Repr

def FileError.message : FileError → String
  | .notFound => "No such file or directory (os error 2)"
  | .unknownFormat => "Exec format error (os error 8)"
  | .notPermitted => "Permission denied (os error 13)"
  | .notDirectory => "Not a directory (os error 20)"
  | .isDirectory => "Is a directory (os error 21)"
  | .nameTooLong => "File name too long (os error 36)"
  | .zeroByte => "nul byte found in provided data"
  | .notText => "stream did not contain valid UTF-8"

/-- The names that lead to an entry, the innermost first. The root has none. -/
abbrev Place := List Bytes

inductive FileEntry where
  | file (content : Bytes) (executable : Bool)
  | directory
  deriving DecidableEq, Repr

structure FileTree where
  entries : List (Place × FileEntry) := []
  workingDirectory : Place := []
  /-- Where nothing may be read: not the content of a file, nor the names in a directory. Paths lead
  through such a directory all the same. -/
  unreadable : List Place := []

namespace FileTree

def entry? (tree : FileTree) (place : Place) : Option FileEntry :=
  if place.isEmpty then some .directory else tree.entries.lookup place

/-- Adds the directories that lead to a place. -/
def withDirectories (tree : FileTree) : Place → FileTree
  | [] => tree
  | name :: above =>
    let tree := tree.withDirectories above
    if (tree.entry? (name :: above)).isSome then tree
    else { tree with entries := tree.entries ++ [(name :: above, .directory)] }

/-- Adds a file and the directories that lead to it. -/
def withFile (tree : FileTree) (place : Place) (content : Bytes) (executable : Bool) : FileTree :=
  let tree := tree.withDirectories place.tail
  { tree with entries := (place, .file content executable) :: tree.entries }

/-- The place that a path names below a directory, by its names alone. -/
def placeBelow (directory : Place) (path : Path) : Place :=
  (path.segments.filter fun segment => segment ≠ [] ∧ segment ≠ [Path.dot]).reverse ++ directory

def maxNameLength : Nat := 255

def maxPathLength : Nat := 4095

/-- Follows one segment. Even a segment that stays has to stay in a directory. -/
def follow (tree : FileTree) (place : Place) (segment : Bytes) : Except FileError Place :=
  match tree.entry? place with
  | none => .error .notFound
  | some (.file ..) => .error .notDirectory
  | some .directory =>
    if segment = [] ∨ segment = [Path.dot] then .ok place
    else if segment = [Path.dot, Path.dot] then .ok place.tail
    else if maxNameLength < segment.length then .error .nameTooLong
    else .ok (segment :: place)

/-- The place of a path, if something is there. -/
def locate (tree : FileTree) (path : Path) : Except FileError (Place × FileEntry) := do
  if path.text.isEmpty then throw .notFound
  if maxPathLength < path.text.length then throw .nameTooLong
  let start := if path.isAbsolute then [] else tree.workingDirectory
  let place ← path.segments.foldlM tree.follow start
  match tree.entry? place with
  | some entry => return (place, entry)
  | none => throw .notFound

def holds (tree : FileTree) (path : Path) : Bool := (tree.locate path).isOk

def isDirectory (tree : FileTree) (path : Path) : Bool :=
  match tree.locate path with
  | .ok (_, .directory) => true
  | _ => false

def isReadable (tree : FileTree) (path : Path) : Bool :=
  match tree.locate path with
  | .ok (place, _) => decide (place ∉ tree.unreadable)
  | .error _ => false

def read (tree : FileTree) (path : Path) : Except FileError Bytes := do
  let (place, entry) ← tree.locate path
  if place ∈ tree.unreadable then throw .notPermitted
  match entry with
  | .file content _ => return content
  | .directory => throw .isDirectory

def readText (tree : FileTree) (path : Path) : Except FileError String := do
  match Text.Utf8.decode? (← tree.read path) with
  | some chars => return String.ofList chars
  | none => throw .notText

/-- The names in a directory. -/
def names (tree : FileTree) (place : Place) : List Bytes :=
  tree.entries.filterMap fun (other, _) =>
    match other with
    | name :: above => if above = place then some name else none
    | [] => none

/-- The names in the directory that a path leads to. -/
def list (tree : FileTree) (path : Path) : Except FileError (List Bytes) := do
  let (place, entry) ← tree.locate path
  if place ∈ tree.unreadable then throw .notPermitted
  match entry with
  | .file .. => throw .notDirectory
  | .directory => return tree.names place

/-- The working directory as a path. -/
def workingPath (tree : FileTree) : Path :=
  .ofComponents (.root :: tree.workingDirectory.reverse.map .name)

end FileTree

end Checkup
