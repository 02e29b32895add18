import Checkup.Surface
import Checkup.Terminal.Page
import Checkup.Word
import Std.Data.TreeMap

/-!
# Screens

What a terminal remembers about a page and what it has printed. The gutter shows the marked rows
with their texts; a cross wins over a dot on a shared row.
-/

namespace Checkup.Terminal

structure Screen where
  anchor : Nat := 0
  marks : Marks := []
  status : Option String := none
  output : String := ""
  errors : String := ""

def padLeft (width : Nat) (text : String) : String :=
  "".pushn ' ' (width - text.length) ++ text

def glyph (color : Bool) : Marker → String
  | .cross => styled color red "✖"
  | .dot => styled color yellow "●"

/-! ## Prompts -/

/-- What the user answers to a question about some items: the position of one of them, a cancel, or
nothing because the prompt failed. How the items are shown is up to the prompt. -/
abbrev Prompt := (question : String) → List String → Except String (Option Nat)

/-- A prompt without a terminal. -/
def Prompt.unattended : Prompt := fun _ _ => .error "IO error: not a terminal"

/-- A cancel, a failed prompt and a position outside of the list pick nothing. -/
def selection (answer : Except String (Option Nat)) (count : Nat) : Option Nat :=
  match answer with
  | .ok choice => choice.filter (· < count)
  | .error _ => none

/-! ## The gutter -/

abbrev Rows := Std.TreeMap Nat Marker

def Rows.mark (rows : Rows) (row : Nat) (marker : Marker) : Rows :=
  match rows[row]?, marker with
  | none, marker => rows.insert row marker
  | some _, .cross => rows.insert row .cross
  | some _, .dot => rows

namespace Page

def markedRows (page : Page) (marks : Marks) : Rows :=
  marks.foldl
    (fun rows (_, anchors, marker) =>
      anchors.foldl (fun rows anchor => Rows.mark rows (page.anchorToCaret anchor).1 marker) rows)
    ∅

def gutterLine (page : Page) (row : Nat) (marker : Marker) : String :=
  glyph page.color marker ++ " " ++ padLeft 5 (toString (row + 1)) ++ " │ " ++
    (page.lines[row]?).getD "" ++ "\n"

def gutter (page : Page) (marks : Marks) : String :=
  String.join ((page.markedRows marks).toList.map fun (row, marker) => page.gutterLine row marker)

def caretRow (page : Page) (screen : Screen) : Nat := (page.anchorToCaret screen.anchor).1

def focus (page : Page) (anchor : Nat) (screen : Screen) : Screen :=
  let (row, column) := page.anchorToCaret anchor
  { screen with
    anchor
    errors := screen.errors ++ "→ " ++ page.label ++ ":" ++ toString (nextWord row) ++ ":" ++
      toString (nextWord column) ++ "\n" }

def listText (page : Page) (items : List String) : String :=
  let numbered := items.zipIdx.map fun (item, index) =>
    "  " ++ padLeft 3 (toString (index + 1)) ++ ". " ++ item ++ "\n"
  styled page.color bold page.label ++ "\n" ++ String.join numbered

def question (page : Page) : String := page.label ++ ": jump to"

/-- Lets the user pick from a list, or prints a numbered one from which nobody can pick. -/
def presentList (page : Page) (items : List String) (screen : Screen)
    (prompt : Prompt := .unattended) : Option Nat × Screen :=
  if items.isEmpty then (none, screen)
  else if page.interactive then (selection (prompt page.question items) items.length, screen)
  else (none, { screen with output := screen.output ++ page.listText items })

def setStatus (page : Page) (text : String) (screen : Screen) : Screen :=
  { screen with
    status := some text
    errors := screen.errors ++ page.label ++ ": " ++ text ++ "\n" }

/-- A page as the surface of a user. Without one a prompt fails. -/
def surface (page : Page) (prompt : Prompt := .unattended) : Surface Screen where
  lineToAnchor := page.lineToAnchor
  caretRow := page.caretRow
  isScratch _ := false
  clearMarks owner screen := { screen with marks := screen.marks.erase owner }
  addMarks owner anchors marker screen :=
    { screen with marks := screen.marks.insert owner anchors marker }
  presentList items screen := page.presentList items screen prompt
  focus := page.focus
  setStatus := page.setStatus
  clearStatus screen := { screen with status := none }

end Page

end Checkup.Terminal
