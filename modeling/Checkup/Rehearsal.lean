import Checkup.Surface
import Checkup.Terminal.Screen

/-!
# Rehearsals

A host that plays tool output from a script and writes down every call. It shows its documents on
a page if it is given one, and otherwise places lines by a rule of its own.
-/

namespace Checkup.Rehearsal

inductive Call where
  | run (arguments : List String)
  | clearMarks (owner : String)
  | addMarks (owner : String) (anchors : List Nat) (marker : Marker)
  | presentList (items : List String)
  | focus (anchor : Nat)
  | setStatus (text : String)
  | clearStatus
  deriving DecidableEq, Repr

structure Script where
  /-- What each executable prints, call by call; the last output repeats. -/
  outputs : List (String × List Bytes) := []
  pick : Option Nat := none
  caret : Nat := 0
  scratch : Bool := false
  /-- The calls so far, the latest first. -/
  calls : List Call := []
  screen : Terminal.Screen := {}

namespace Script

def record (script : Script) (call : Call) : Script :=
  { script with calls := call :: script.calls }

def onScreen (script : Script) (change : Terminal.Screen → Terminal.Screen) : Script :=
  { script with screen := change script.screen }

/-- Takes the next output of an executable. -/
def takeOutput (outputs : List (String × List Bytes)) (executable : String) :
    Bytes × List (String × List Bytes) :=
  match outputs with
  | [] => ([], [])
  | (name, prepared) :: rest =>
    if name = executable then
      match prepared with
      | [] => ([], (name, []) :: rest)
      | [last] => (last, (name, [last]) :: rest)
      | next :: later => (next, (name, later) :: rest)
    else
      let (output, rest) := takeOutput rest executable
      (output, (name, prepared) :: rest)

end Script

def maxAnchor : Nat := wordLimit - 1

/-- Without a page every line is a hundred bytes long. -/
def lineToAnchor (page : Option Terminal.Page) (line : Nat) : Nat :=
  match page with
  | some page => page.lineToAnchor line
  | none => min (line * 100) maxAnchor

def rowOfAnchor (anchor : Nat) : Nat := anchor / 100 - 1

open Terminal (Screen)

def host (page : Option Terminal.Page) : Host Script where
  lineToAnchor := lineToAnchor page
  caretRow script :=
    match page with
    | some page => page.caretRow script.screen
    | none => script.caret
  isScratch script := script.scratch
  clearMarks owner script :=
    (script.record (.clearMarks owner)).onScreen fun screen =>
      { screen with marks := screen.marks.erase owner }
  addMarks owner anchors marker script :=
    (script.record (.addMarks owner anchors marker)).onScreen fun screen =>
      { screen with marks := screen.marks.insert owner anchors marker }
  presentList items script :=
    let shown := (script.record (.presentList items)).onScreen fun screen =>
      match page with
      | some page => (page.presentList items screen).2
      | none => screen
    (script.pick, shown)
  focus anchor script :=
    let recorded := { script.record (.focus anchor) with caret := rowOfAnchor anchor }
    recorded.onScreen fun screen =>
      match page with
      | some page => page.focus anchor screen
      | none => screen
  setStatus text script :=
    (script.record (.setStatus text)).onScreen fun screen =>
      match page with
      | some page => page.setStatus text screen
      | none => { screen with status := some text }
  clearStatus script :=
    (script.record .clearStatus).onScreen fun screen => { screen with status := none }
  run arguments script :=
    let (output, outputs) := Script.takeOutput script.outputs (arguments.headD "")
    (output, { script.record (.run arguments) with outputs })
  log _ _ script := script

end Checkup.Rehearsal
