import Checkup.Collect

/-!
# The checker and its sessions

A session holds the latest report for one target identity. The checker answers the commands of a
user; each of them ignores targets that are not checked.
-/

namespace Checkup

/-- The sessions by identity. A session that was opened but never ran has no report. -/
abbrev Sessions := Std.TreeMap String (Option Report)

namespace Sessions

def report? (sessions : Sessions) (id : String) : Option Report :=
  (sessions[id]?).bind fun report => report

/-- Opens a session unless there is one. -/
def enter (sessions : Sessions) (id : String) : Sessions := sessions.insertIfNew id none

def store (sessions : Sessions) (id : String) (report : Report) : Sessions :=
  sessions.insert id (some report)

def hasMessages (sessions : Sessions) (id : String) : Bool :=
  (sessions.report? id).any (!·.isEmpty)

end Sessions

/-- The sessions together with the state of the host. -/
structure Desk (State : Type) where
  sessions : Sessions
  host : State

structure Checker (State : Type) where
  settings : Settings
  host : Host State

namespace Checker

variable {State : Type}

def onHost {Value : Type} (action : StateM State Value) : StateM (Desk State) Value := fun desk =>
  let (value, host) := action.run desk.host
  (value, { desk with host })

def enter (id : String) : StateM (Desk State) PUnit :=
  modify fun desk => { desk with sessions := desk.sessions.enter id }

/-- Collects, stores the report and presents it. -/
def run (checker : Checker State) (target : Target) (event : Event) :
    StateM (Desk State) Report := do
  enter target.id
  let report ← onHost (collect checker.host checker.settings target event)
  onHost (modify (checker.host.log .detail
    (target.id ++ ": stored " ++ toString report.messages.length ++ " message(s)")))
  modify fun desk => { desk with sessions := desk.sessions.store target.id report }
  onHost (report.present checker.host checker.settings)
  return report

/-- Runs on demand. -/
def sniff (checker : Checker State) (target : Target) : StateM (Desk State) (Option Report) := do
  if checker.settings.checks target then return some (← checker.run target .explicit)
  else
    onHost (modify (checker.host.log .detail
      ("skipping " ++ target.id ++ ": extension not enabled")))
    return none

/-- Runs after a save, if the settings ask for it. -/
def save (checker : Checker State) (target : Target) : StateM (Desk State) (Option Report) := do
  if checker.settings.runOnSave && checker.settings.checks target then
    return some (← checker.run target .onSave)
  else return none

def canShowPrevious (checker : Checker State) (target : Target) (sessions : Sessions) : Bool :=
  checker.settings.checks target && sessions.hasMessages target.id

/-- Shows the stored report again without running a tool. -/
def showPrevious (checker : Checker State) (target : Target) : StateM (Desk State) Bool := do
  let sessions := (← get).sessions
  if checker.canShowPrevious target sessions then
    match sessions.report? target.id with
    | some report =>
      onHost (report.showList checker.host checker.settings)
      return true
    | none => return false
  else return false

def clearMarks (checker : Checker State) (target : Target) : StateM (Desk State) PUnit := do
  if checker.settings.checks target then onHost (clearAllMarks checker.host)

/-- The caret has moved: refreshes the status from the stored report. -/
def caretMoved (checker : Checker State) (target : Target) : StateM (Desk State) PUnit := do
  if checker.settings.checks target then
    match (← get).sessions.report? target.id with
    | some report => onHost (report.refreshStatus checker.host checker.settings)
    | none => return

end Checker

end Checkup
