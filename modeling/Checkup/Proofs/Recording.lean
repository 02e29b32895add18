import Checkup.Proofs.Presentation
import Checkup.Proofs.Watching
import Checkup.Rehearsal

/-!
# Recorded calls

Any host can be made to write down its calls. Tools are run while findings are collected and at no
other time, each enabled one once and in order.
-/

namespace Checkup

open Rehearsal (Call)

variable {State : Type}

/-- A state together with the calls that led to it, in their order. -/
structure Recorded (State : Type) where
  state : State
  calls : List Call := []

namespace Recorded

def write (recorded : Recorded State) (call : Call) (state : State) : Recorded State :=
  ⟨state, recorded.calls ++ [call]⟩

/-- The argument vectors that tools were run with. -/
def questions (recorded : Recorded State) : List (List String) :=
  recorded.calls.filterMap fun
    | .run vector => some vector
    | _ => none

end Recorded

/-- The same host, which also writes down its calls. -/
def Host.recorded (host : Host State) : Host (Recorded State) where
  lineToAnchor := host.lineToAnchor
  caretRow recorded := host.caretRow recorded.state
  isScratch recorded := host.isScratch recorded.state
  clearMarks owner recorded :=
    recorded.write (.clearMarks owner) (host.clearMarks owner recorded.state)
  addMarks owner anchors marker recorded :=
    recorded.write (.addMarks owner anchors marker)
      (host.addMarks owner anchors marker recorded.state)
  presentList items recorded :=
    let answered := host.presentList items recorded.state
    (answered.1, recorded.write (.presentList items) answered.2)
  focus anchor recorded := recorded.write (.focus anchor) (host.focus anchor recorded.state)
  setStatus text recorded := recorded.write (.setStatus text) (host.setStatus text recorded.state)
  clearStatus recorded := recorded.write .clearStatus (host.clearStatus recorded.state)
  run vector recorded :=
    let printed := host.run vector recorded.state
    (printed.1, recorded.write (.run vector) printed.2)
  log level text recorded := { recorded with state := host.log level text recorded.state }

/-! ## Questions -/

/-- What a state tells of the tools that were run changes only when one is run. -/
structure Questioned (host : Host State) (questions : State → List (List String)) : Prop where
  run : ∀ vector state, questions (host.run vector state).2 = questions state ++ [vector]
  log : ∀ level text state, questions (host.log level text state) = questions state
  clearMarks : ∀ owner state, questions (host.clearMarks owner state) = questions state
  addMarks : ∀ owner anchors marker state,
    questions (host.addMarks owner anchors marker state) = questions state
  presentList : ∀ items state, questions (host.presentList items state).2 = questions state
  focus : ∀ anchor state, questions (host.focus anchor state) = questions state
  setStatus : ∀ text state, questions (host.setStatus text state) = questions state
  clearStatus : ∀ state, questions (host.clearStatus state) = questions state

theorem questions_write (recorded : Recorded State) (call : Call) (state : State) :
    (recorded.write call state).questions =
      recorded.questions ++ [call].filterMap fun
        | .run vector => some vector
        | _ => none :=
  List.filterMap_append

theorem recorded_questioned (host : Host State) :
    Questioned host.recorded Recorded.questions where
  run _ _ := questions_write ..
  log _ _ _ := rfl
  clearMarks _ _ := (questions_write ..).trans (List.append_nil _)
  addMarks _ _ _ _ := (questions_write ..).trans (List.append_nil _)
  presentList _ _ := (questions_write ..).trans (List.append_nil _)
  focus _ _ := (questions_write ..).trans (List.append_nil _)
  setStatus _ _ := (questions_write ..).trans (List.append_nil _)
  clearStatus _ := (questions_write ..).trans (List.append_nil _)

/-- The argument vectors for a file: one for each enabled analyzer, in their order. -/
def Settings.invocations (settings : Settings) (path : Path) : List (List String) :=
  (Analyzer.all.filter fun analyzer => (settings.tools.get analyzer).enabled).map fun analyzer =>
    analyzer.invocation settings path

theorem questions_of_file (settings : Settings) {target : Target} {path : Path}
    (file : target.path = some path) :
    Analyzer.all.flatMap (fun analyzer => (analyzer.question? settings target).toList) =
      settings.invocations path := by
  rw [Settings.invocations]
  generalize Analyzer.all = analyzers
  induction analyzers with
  | nil => rfl
  | cons analyzer rest ih =>
      rw [List.flatMap_cons, ih, Analyzer.question?, file, List.filter_cons]
      cases (settings.tools.get analyzer).enabled with
      | false => rfl
      | true => rfl

namespace Questioned

variable {host : Host State} {questions : State → List (List String)}

def watch (questioned : Questioned host questions) : Watch host (List (List String)) where
  view := questions
  asked vector asked := asked ++ [vector]
  cleared _ asked := asked
  marked _ _ _ asked := asked
  run := questioned.run
  log := questioned.log
  clearMarks := questioned.clearMarks
  addMarks := questioned.addMarks

variable (questioned : Questioned host questions)

include questioned

theorem watch_renewed (settings : Settings) (target : Target) :
    questioned.watch.renewed settings target =
      fun asked entry => asked ++ (entry.analyzer.question? settings target).toList := by
  funext asked entry
  have once : questioned.watch.questioned settings target entry.analyzer asked =
      asked ++ (entry.analyzer.question? settings target).toList := by
    unfold Watch.questioned
    cases entry.analyzer.question? settings target with
    | none => exact (List.append_nil _).symm
    | some vector => rfl
  rw [Watch.renewed, once]
  exact ite_self _

/-- Collecting runs the tool of each enabled analyzer once. -/
theorem collect (settings : Settings) (target : Target) (event : Event) (state : State)
    {path : Path} (file : target.path = some path) :
    questions ((collect host settings target event).run state).2 =
      questions state ++ settings.invocations path := by
  have collected := questioned.watch.collect settings target event state
  dsimp only at collected
  rw [watch_renewed, List.foldl_append_eq_append] at collected
  rw [← questions_of_file settings file, ← collect_analyzers host settings target event state,
    List.flatMap_map]
  exact collected

theorem clear_all (state : State) :
    questions ((clearAllMarks host).run state).2 = questions state :=
  questioned.watch.clear_all state

theorem refreshStatus (report : Report) (settings : Settings) (state : State) :
    questions ((report.refreshStatus host settings).run state).2 = questions state := by
  rw [Report.refresh_status_run]
  dsimp only
  split
  · rfl
  split
  · exact questioned.setStatus ..
  · exact questioned.clearStatus ..

theorem select (report : Report) (settings : Settings) (picked : Option Nat) (state : State) :
    questions ((report.select host settings picked).run state).2 = questions state := by
  rw [Report.select_run]
  split
  · rfl
  split
  · exact (questioned.refreshStatus ..).trans (questioned.focus ..)
  · exact questioned.log ..

/-- Presenting runs no tool. -/
theorem showList (report : Report) (settings : Settings) (state : State) :
    questions ((report.showList host settings).run state).2 = questions state := by
  rw [Report.show_list_run]
  exact (questioned.select ..).trans (questioned.presentList ..)

theorem present (report : Report) (settings : Settings) (state : State) :
    questions ((report.present host settings).run state).2 = questions state := by
  rw [Report.present_run]
  split
  · exact questioned.showList ..
  · rfl

end Questioned

/-! ## Calls -/

theorem log_all_calls (host : Host State) (lines : List (LogLevel × String))
    (recorded : Recorded State) :
    (host.recorded.logAll lines recorded).calls = recorded.calls := by
  induction lines generalizing recorded with
  | nil => rfl
  | cons line rest ih => exact ih _

/-- What follows a choice from the list: no other list is shown. -/
theorem select_calls (host : Host State) (settings : Settings) (report : Report)
    (picked : Option Nat) (recorded : Recorded State) :
    ∃ rest, ((report.select host.recorded settings picked).run recorded).2.calls =
        recorded.calls ++ rest ∧ ∀ items, Call.presentList items ∉ rest := by
  rw [Report.select_run]
  split
  · exact ⟨[], (List.append_nil _).symm, by simp⟩
  split
  · rename_i finding _
    rw [Report.refresh_status_run]
    dsimp only
    split
    · exact ⟨[.focus finding.anchor], rfl, by simp⟩
    split
    · rename_i message _
      exact ⟨[.focus finding.anchor, .setStatus message], by
        simp [Host.recorded, Recorded.write], by simp⟩
    · exact ⟨[.focus finding.anchor, .clearStatus], by
        simp [Host.recorded, Recorded.write], by simp⟩
  · exact ⟨[], (List.append_nil _).symm, by simp⟩

/-- Showing a report begins with its messages. -/
theorem show_list_calls (host : Host State) (settings : Settings) (report : Report)
    (recorded : Recorded State) :
    ∃ rest, ((report.showList host.recorded settings).run recorded).2.calls =
        recorded.calls ++ .presentList report.messages :: rest ∧
      ∀ items, Call.presentList items ∉ rest := by
  rw [Report.show_list_run]
  obtain ⟨rest, calls, single⟩ := select_calls host settings report
    (host.recorded.presentList report.messages recorded).1
    (host.recorded.presentList report.messages recorded).2
  refine ⟨rest, ?_, single⟩
  dsimp only
  rw [calls]
  simp [Host.recorded, Recorded.write]

end Checkup
