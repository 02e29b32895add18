import Checkup.Invocation
import Checkup.Report
import Checkup.Surface
import Checkup.Target

/-!
# Running and presenting

A run asks each analyzer in turn, renews its marks and gathers the findings into a report. Showing
a report is a step of its own, so that an old report can be shown again without running a tool.
-/

namespace Checkup

open ToolOutput (Violation Dropped)

variable {State : Type}

namespace Analyzer

def droppedText (analyzer : Analyzer) : Dropped → LogLevel × String
  | .unusableLine => (.detail, analyzer.name ++ ": skipping match with unusable line number")
  | .undecodable line error =>
    (.warning,
      analyzer.name ++ ": dropping finding on line " ++ toString line ++ ": " ++ error.message)

/-- Keeps the violations and logs what was dropped. -/
def keepViolations (analyzer : Analyzer) (host : Host State) :
    List (Except Dropped Violation) → StateM State (List Violation)
  | [] => return []
  | .ok violation :: rest => return violation :: (← keepViolations analyzer host rest)
  | .error dropped :: rest => do
    let (level, text) := analyzer.droppedText dropped
    modify (host.log level text)
    keepViolations analyzer host rest

/-- The violations in a target. A disabled analyzer and a target without a file have none. What is
wrong with a pattern that does not compile is left out of the log. -/
def violations (analyzer : Analyzer) (host : Host State) (settings : Settings) (target : Target) :
    StateM State (List Violation) := do
  if !(settings.tools.get analyzer).enabled then return []
  let some path := target.path | return []
  let raw ← modifyGet (host.run (analyzer.invocation settings path))
  modify (host.log .detail raw.toLossyString)
  if analyzer = .linter ∧ (Pattern.ofText? settings.linterPattern).isNone then
    modify (host.log .detail "syntax pattern does not compile")
  analyzer.keepViolations host
    (ToolOutput.readAll settings raw target.fallbackEncoding analyzer)

/-- Runs one analyzer and replaces its marks by those of its findings. -/
def collect (analyzer : Analyzer) (host : Host State) (settings : Settings) (target : Target) :
    StateM State Entry := do
  let violations ← analyzer.violations host settings target
  modify (host.log .detail
    (analyzer.name ++ " found " ++ toString violations.length ++ " errors"))
  let findings := violations.map fun violation =>
    { violation with anchor := host.lineToAnchor violation.line : Finding }
  modify (host.clearMarks analyzer.name)
  if !findings.isEmpty && settings.display.gutterMarks then
    modify (host.addMarks analyzer.name (findings.map (·.anchor)) analyzer.marker)
  return ⟨analyzer, findings⟩

end Analyzer

/-- The report of one run of all analyzers. Marks are renewed, nothing is presented. -/
def collect (host : Host State) (settings : Settings) (target : Target) (event : Event) :
    StateM State Report := do
  let entries ← Analyzer.all.mapM fun analyzer => analyzer.collect host settings target
  return .ofEntries event entries

namespace Report

/-- Shows the message for the row of the caret, or clears the status. -/
def refreshStatus (report : Report) (host : Host State) (settings : Settings) :
    StateM State PUnit := do
  if !settings.display.status || host.isScratch (← get) then return
  match report.statusForRow? (host.caretRow (← get)) with
  | some message => modify (host.setStatus message)
  | none => modify host.clearStatus

/-- Jumps to the finding that was picked. Nothing happens on a cancel or a position outside of
the list. -/
def select (report : Report) (host : Host State) (settings : Settings) (picked : Option Nat) :
    StateM State PUnit := do
  let some index := picked | return
  match report.finding? index with
  | some finding =>
    modify (host.focus finding.anchor)
    report.refreshStatus host settings
  | none => modify (host.log .detail ("selection " ++ toString index ++ " is out of range"))

def showList (report : Report) (host : Host State) (settings : Settings) :
    StateM State PUnit := do
  let picked ← modifyGet (host.presentList report.messages)
  report.select host settings picked

/-- Shows the list unless it is empty or the settings forbid it for this event. -/
def present (report : Report) (host : Host State) (settings : Settings) :
    StateM State PUnit := do
  if !settings.display.quickPanel || report.isEmpty then return
  if report.event = .onSave ∧ !settings.display.onSave then return
  report.showList host settings

end Report

/-- Collects and presents. -/
def collectAndPresent (host : Host State) (settings : Settings) (target : Target)
    (event : Event) : StateM State Report := do
  let report ← collect host settings target event
  report.present host settings
  return report

def clearAllMarks (host : Host State) : StateM State PUnit :=
  Analyzer.all.forM fun analyzer => modify (host.clearMarks analyzer.name)

end Checkup
