import Checkup.Analyzer
import Checkup.Terminal.Color
import Checkup.Text.Utf8

/-!
# Pages

A file as a terminal shows it. An anchor is the offset of a byte; lines count from one and rows
from zero. Rows are found among the bytes, their texts in the decoded content.
-/

namespace Checkup.Terminal

def newline : UInt8 := 10

/-- The offsets behind the newlines, the first byte being at `offset`. -/
def startsBehind : (offset : Nat) → Bytes → List Nat
  | _, [] => []
  | offset, byte :: rest =>
    if byte = newline then (offset + 1) :: startsBehind (offset + 1) rest
    else startsBehind (offset + 1) rest

def lineStarts (content : Bytes) : List Nat := 0 :: startsBehind 0 content

def dropReturn (line : List Char) : List Char :=
  if line.getLast? = some '\r' then line.dropLast else line

/-- The lines of a text. A newline ends a line and takes a carriage return before it along. -/
def textLines (text : List Char) : List (List Char) :=
  match text with
  | [] => []
  | char :: rest =>
    let line := (char :: rest).takeWhile (· != '\n')
    match found : (char :: rest).dropWhile (· != '\n') with
    | [] => [line]
    | _ :: further =>
      have : further.length < (char :: rest).length := by
        have bound := (List.dropWhile_suffix (l := char :: rest) (· != '\n')).length_le
        rw [found] at bound
        exact bound
      dropReturn line :: textLines further
termination_by text.length
decreasing_by exact this

structure Page where
  label : String
  lines : List String
  starts : List Nat
  length : Nat
  interactive : Bool
  color : Bool

/-- The anchors and the marker of each owner, in order of names. -/
abbrev Marks := List (String × List Nat × Marker)

namespace Marks

/-- Replaces the marks of an owner, keeping the names in order. -/
def insert (marks : Marks) (owner : String) (anchors : List Nat) (marker : Marker) : Marks :=
  match marks with
  | [] => [(owner, anchors, marker)]
  | (other, held) :: rest =>
    if owner < other then (owner, anchors, marker) :: (other, held) :: rest
    else if owner = other then (owner, anchors, marker) :: rest
    else (other, held) :: insert rest owner anchors marker

def erase (marks : Marks) (owner : String) : Marks := marks.filter (·.1 != owner)

end Marks

namespace Page

def ofBytes (label : String) (content : Bytes) (interactive color : Bool) : Page :=
  { label
    lines := (textLines (Text.Utf8.decodeLossy content)).map String.ofList
    starts := lineStarts content
    length := content.length
    interactive
    color }

/-- The start of a line, and the end of the file for a line beyond it. -/
def lineToAnchor (page : Page) (line : Nat) : Nat :=
  (page.starts[line - 1]?).getD page.length

/-- The row and column of an anchor: the last row that starts at or before it. -/
def anchorToCaret (page : Page) (anchor : Nat) : Nat × Nat :=
  let row := (page.starts.takeWhile (· ≤ anchor)).length - 1
  (row, anchor - (page.starts[row]?).getD 0)

end Page

end Checkup.Terminal
