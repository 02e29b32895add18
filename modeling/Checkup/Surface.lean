import Checkup.Analyzer
import Checkup.Text.Utf8

/-!
# Surfaces and hosts

A surface is what shows a document: it places lines, keeps marks and a status text, and lets the
user pick from a list. A host is a surface that can also run tools and keep a log. Both act on a
state of their own type.
-/

namespace Checkup

structure Surface (State : Type) where
  /-- The anchor of a line that counts from one. -/
  lineToAnchor : Nat → Nat
  /-- The row of the caret, counted from zero. -/
  caretRow : State → Nat
  /-- A scratch document never shows a status. -/
  isScratch : State → Bool
  clearMarks : (owner : String) → State → State
  addMarks : (owner : String) → List Nat → Marker → State → State
  /-- The position of the picked item, unless the user cancels. -/
  presentList : List String → State → Option Nat × State
  focus : (anchor : Nat) → State → State
  setStatus : String → State → State
  clearStatus : State → State

inductive LogLevel where
  | warning
  | detail
  deriving DecidableEq, Repr

structure Host (State : Type) extends Surface State where
  /-- Runs a tool and tells what it wrote to its standard output. -/
  run : List String → State → Bytes × State
  log : LogLevel → String → State → State

end Checkup
