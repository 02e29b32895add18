import Checkup.Analyzer
import Checkup.ToolOutput
import Std.Data.TreeMap

/-!
# Reports

The outcome of one run of all analyzers. A report grows entry by entry; the list of messages and
the index by line follow the findings in order, so that a later finding takes over a shared line.
-/

namespace Checkup

open ToolOutput (Violation)

/-- What made a run begin. -/
inductive Event where
  | explicit
  | onSave
  deriving DecidableEq, Repr

/-- A violation with the anchor of its line in the document. -/
structure Finding extends Violation where
  anchor : Nat
  deriving DecidableEq, Repr

def Finding.display (finding : Finding) : String :=
  "(" ++ toString finding.line ++ ") " ++ finding.message

structure Entry where
  analyzer : Analyzer
  findings : List Finding
  deriving DecidableEq, Repr

structure Report where
  event : Event
  entries : List Entry
  messages : List String
  lineIndex : Std.TreeMap Nat String

namespace Report

def empty (event : Event) : Report := ⟨event, [], [], ∅⟩

def indexFindings (index : Std.TreeMap Nat String) (findings : List Finding) :
    Std.TreeMap Nat String :=
  findings.foldl (fun index finding => index.insert finding.line finding.message) index

def push (report : Report) (entry : Entry) : Report :=
  { report with
    entries := report.entries ++ [entry]
    messages := report.messages ++ entry.findings.map Finding.display
    lineIndex := indexFindings report.lineIndex entry.findings }

def ofEntries (event : Event) (entries : List Entry) : Report :=
  entries.foldl push (empty event)

/-- All findings, in the order of the messages. -/
def findings (report : Report) : List Finding := report.entries.flatMap (·.findings)

def finding? (report : Report) (index : Nat) : Option Finding := report.findings[index]?

/-- Rows count from zero and are 64-bit words, so line zero follows the last row. -/
def statusForRow? (report : Report) (row : Nat) : Option String :=
  report.lineIndex[nextWord row]?

/-- How many findings the analyzers of a name have. -/
def count (report : Report) (name : String) : Nat :=
  ((report.entries.filter (·.analyzer.name == name)).flatMap (·.findings)).length

def isEmpty (report : Report) : Bool := report.messages.isEmpty

end Report

end Checkup
