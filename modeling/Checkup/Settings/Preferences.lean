import Checkup.Settings.Datum

/-!
# Preferences

What a configuration document says, every part of it optional. Unknown fields are passed over; a
field of the wrong kind or written twice makes the whole document unusable.
-/

namespace Checkup.Settings

/-- Arguments of a tool with their values, in the order in which they were first given. -/
abbrev Arguments := List (String × String)

namespace Arguments

/-- A name that is given again keeps its place and takes the new value. -/
def insert (arguments : Arguments) (name value : String) : Arguments :=
  match arguments with
  | [] => [(name, value)]
  | (other, old) :: rest =>
    if other = name then (name, value) :: rest else (other, old) :: insert rest name value

def ofPairs (pairs : List (String × String)) : Arguments :=
  pairs.foldl (fun arguments (name, value) => arguments.insert name value) []

end Arguments

structure ToolPreferences where
  enabled : Option Bool := none
  executable : Option String := none
  arguments : Option Arguments := none
  pattern : Option String := none
  deriving DecidableEq, Repr

structure DisplayPreferences where
  gutterMarks : Option Bool := none
  status : Option Bool := none
  quickPanel : Option Bool := none
  onSave : Option Bool := none
  deriving DecidableEq, Repr

structure Preferences where
  debug : Option Bool := none
  extensions : Option (List String) := none
  fallbackEncoding : Option String := none
  runOnSave : Option Bool := none
  display : Option DisplayPreferences := none
  linter : Option ToolPreferences := none
  sniffer : Option ToolPreferences := none
  messDetector : Option ToolPreferences := none
  deriving DecidableEq, Repr

namespace Preferences

def texts? (datum : Datum) : Option (List String) := do
  (← datum.items?).mapM Datum.text?

def arguments? (datum : Datum) : Option Arguments := do
  let pairs ← (← datum.entries?).mapM fun (key, value) => return (← key.text?, ← value.text?)
  return Arguments.ofPairs pairs

def tool? (datum : Datum) : Option ToolPreferences := do
  let fields ← datum.fields? ["enabled", "executable", "args", "pattern"]
  return {
    enabled := ← Datum.field? fields Datum.truth? "enabled"
    executable := ← Datum.field? fields Datum.text? "executable"
    arguments := ← Datum.field? fields arguments? "args"
    pattern := ← Datum.field? fields Datum.text? "pattern" }

def display? (datum : Datum) : Option DisplayPreferences := do
  let fields ← datum.fields? ["gutter_marks", "status", "quick_panel", "on_save"]
  return {
    gutterMarks := ← Datum.field? fields Datum.truth? "gutter_marks"
    status := ← Datum.field? fields Datum.truth? "status"
    quickPanel := ← Datum.field? fields Datum.truth? "quick_panel"
    onSave := ← Datum.field? fields Datum.truth? "on_save" }

/-- The preferences that a document states. -/
def ofDatum? (datum : Datum) : Option Preferences := do
  let fields ← datum.fields? ["debug", "extensions", "fallback_encoding", "run_on_save", "display",
    "syntax", "style", "complexity"]
  return {
    debug := ← Datum.field? fields Datum.truth? "debug"
    extensions := ← Datum.field? fields texts? "extensions"
    fallbackEncoding := ← Datum.field? fields Datum.text? "fallback_encoding"
    runOnSave := ← Datum.field? fields Datum.truth? "run_on_save"
    display := ← Datum.field? fields display? "display"
    linter := ← Datum.field? fields tool? "syntax"
    sniffer := ← Datum.field? fields tool? "style"
    messDetector := ← Datum.field? fields tool? "complexity" }

end Preferences

end Checkup.Settings
