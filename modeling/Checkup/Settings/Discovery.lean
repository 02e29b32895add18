import Checkup.FileTree
import Checkup.Settings
import Checkup.Toml.Document
import Checkup.Yaml.Node

/-!
# Finding the settings

The settings are written in a document in the nearest directory that has one, or that is the root
of a repository. Directories are searched upwards along the text of a path.
-/

namespace Checkup.Settings

inductive Format where
  | toml
  | yaml
  deriving DecidableEq, Repr

/-- The names that a document may have, in the order in which they are tried. -/
def documentNames : List (String × Format) :=
  [("phpcheck.toml", .toml), ("phpcheck.yaml", .yaml), ("phpcheck.yml", .yaml)]

def repositoryName : String := ".git"

/-- Something in a directory ends the search there. -/
def isMarked (tree : FileTree) (directory : Path) : Bool :=
  (documentNames.map (·.1) ++ [repositoryName]).any fun name =>
    tree.holds (directory.join (.ofString name))

def nearestMarked? (tree : FileTree) (directory : Path) : Option Path :=
  if isMarked tree directory then some directory
  else
    match _found : directory.parent? with
    | some parent => nearestMarked? tree parent
    | none => none
termination_by directory.text.length
decreasing_by exact Path.parent?_length _found

/-- Where nothing is found the search ends at its start. -/
def root (tree : FileTree) (start : Path) : Path := (nearestMarked? tree start).getD start

inductive DocumentError where
  | unreadable (document : Path) (cause : FileError)
  | malformed (document : Path) (format : Format)
  deriving DecidableEq, Repr

namespace DocumentError

/-- What failed, up to the colon before the cause. -/
def heading : DocumentError → String
  | .unreadable document _ => "cannot read " ++ document.display ++ ":"
  | .malformed document .toml => "invalid TOML in " ++ document.display ++ ":"
  | .malformed document .yaml => "invalid YAML in " ++ document.display ++ ":"

/-- What failed and why. Where in a malformed document the reading ends is left out. -/
def message : DocumentError → String
  | .unreadable document cause => (unreadable document cause).heading ++ " " ++ cause.message
  | error => error.heading

end DocumentError

def Format.preferences? (format : Format) (text : String) : Option Preferences :=
  match format with
  | .toml => (Toml.datum? text).bind Preferences.ofDatum?
  | .yaml => (Yaml.datum? text).bind Preferences.ofDatum?

def readDocument (tree : FileTree) (document : Path) (format : Format) :
    Except DocumentError Preferences :=
  match tree.readText document with
  | .error cause => .error (.unreadable document cause)
  | .ok text =>
    match format.preferences? text with
    | some preferences => .ok preferences
    | none => .error (.malformed document format)

/-- Reads the first document that a directory holds. -/
def load (tree : FileTree) (directory : Path) : Except DocumentError (Option Preferences) :=
  let documents := documentNames.map fun (name, format) => (directory.join (.ofString name), format)
  match documents.find? fun (document, _) => tree.holds document with
  | none => .ok none
  | some (document, format) => (readDocument tree document format).map some

structure Discovered where
  settings : Settings
  root : Path
  /-- Whether a document was found there. -/
  documented : Bool

/-- The settings for a start directory, changed by the overrides. -/
def discover (tree : FileTree) (start : Option Path) (overrides : Overrides) :
    Except DocumentError Discovered := do
  let root := root tree (start.getD ⟨[Path.dot]⟩)
  let preferences ← load tree root
  return ⟨(ofPreferences (preferences.getD {})).override overrides, root, preferences.isSome⟩

end Checkup.Settings
