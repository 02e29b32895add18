import Checkup.Checker
import Checkup.Proofs.Recording

/-!
# Recording changes nothing else

An action is transparent if it does the same when its calls are not written down. What is made of
transparent actions is transparent, and so is all that a checker does.
-/

namespace Checkup

variable {State : Type}

/-- Seen without what was written down, the one action does what the other does. -/
def Transparent {Full Value : Type} (view : Full → State) (recording : StateM Full Value)
    (plain : StateM State Value) : Prop :=
  ∀ full, ((recording.run full).1, view (recording.run full).2) = plain.run (view full)

namespace Transparent

section Parts

variable {Full Value Next Item : Type} {view : Full → State} {recording other : StateM Full Value}
  {plain otherPlain : StateM State Value}

theorem of_value (value : Value) :
    Transparent view (pure value : StateM Full Value) (pure value) :=
  fun _ => rfl

theorem bind {recordingNext : Value → StateM Full Next} {plainNext : Value → StateM State Next}
    (first : Transparent view recording plain)
    (next : ∀ value, Transparent view (recordingNext value) (plainNext value)) :
    Transparent view (recording >>= recordingNext) (plain >>= plainNext) := by
  intro full
  rw [StateT.run_bind, StateT.run_bind, ← first full]
  exact next _ _

theorem of_ite {condition : Prop} [Decidable condition]
    (yes : Transparent view recording plain) (no : Transparent view other otherPlain) :
    Transparent view (if condition then recording else other)
      (if condition then plain else otherPlain) := by
  split
  · exact yes
  · exact no

/-- What is read of the state is read in its view. -/
theorem of_get {recordingNext : Full → StateM Full Next} {plainNext : State → StateM State Next}
    (next : ∀ full, Transparent view (recordingNext full) (plainNext (view full))) :
    Transparent view (get >>= recordingNext) (get >>= plainNext) :=
  fun full => next full full

theorem of_modify {change : Full → Full} {plainChange : State → State}
    (same : ∀ full, view (change full) = plainChange (view full)) :
    Transparent view (modify change) (modify plainChange) :=
  fun full => congrArg (Prod.mk _) (same full)

theorem of_modifyGet {change : Full → Value × Full} {plainChange : State → Value × State}
    (same : ∀ full, ((change full).1, view (change full).2) = plainChange (view full)) :
    Transparent view (modifyGet change) (modifyGet plainChange) :=
  same

theorem mapM {recordingOf : Item → StateM Full Value} {plainOf : Item → StateM State Value}
    (each : ∀ item, Transparent view (recordingOf item) (plainOf item)) (items : List Item) :
    Transparent view (items.mapM recordingOf) (items.mapM plainOf) := by
  induction items with
  | nil => exact of_value []
  | cons item rest ih =>
      rw [List.mapM_cons, List.mapM_cons]
      exact bind (each item) fun _ => bind ih fun _ => of_value _

end Parts

variable (host : Host State) (settings : Settings) (target : Target) (report : Report)

theorem log (level : LogLevel) (text : String) :
    Transparent Recorded.state (modify (host.recorded.log level text))
      (modify (host.log level text)) :=
  of_modify fun _ => rfl

theorem keepViolations (analyzer : Analyzer)
    (readings : List (Except ToolOutput.Dropped ToolOutput.Violation)) :
    Transparent Recorded.state (analyzer.keepViolations host.recorded readings)
      (analyzer.keepViolations host readings) := by
  induction readings with
  | nil => exact of_value []
  | cons reading rest ih =>
      cases reading with
      | ok violation => exact bind ih fun _ => of_value _
      | error dropped => exact bind (log host _ _) fun _ => ih

theorem violations (analyzer : Analyzer) :
    Transparent Recorded.state (analyzer.violations host.recorded settings target)
      (analyzer.violations host settings target) := by
  unfold Analyzer.violations
  apply of_ite
  · exact of_value []
  · cases target.path with
    | none => exact of_value []
    | some path =>
        refine bind (of_modifyGet fun _ => rfl) fun raw => bind (log host _ _) fun _ => ?_
        apply of_ite
        · exact bind (log host _ _) fun _ => keepViolations host analyzer _
        · exact keepViolations host analyzer _

theorem collect_one (analyzer : Analyzer) :
    Transparent Recorded.state (analyzer.collect host.recorded settings target)
      (analyzer.collect host settings target) := by
  refine bind (violations host settings target analyzer) fun violations =>
    bind (log host _ _) fun _ => bind (of_modify fun _ => rfl) fun _ => ?_
  apply of_ite
  · exact bind (of_modify fun _ => rfl) fun _ => of_value _
  · exact of_value _

theorem collect (event : Event) :
    Transparent Recorded.state (collect host.recorded settings target event)
      (collect host settings target event) :=
  bind (mapM (collect_one host settings target) Analyzer.all) fun _ => of_value _

theorem refreshStatus :
    Transparent Recorded.state (report.refreshStatus host.recorded settings)
      (report.refreshStatus host settings) := by
  apply of_get
  intro recorded
  apply of_ite (of_value _)
  apply of_get
  intro recorded
  dsimp only [Host.recorded]
  cases report.statusForRow? (host.caretRow recorded.state) with
  | none => exact of_modify fun _ => rfl
  | some message => exact of_modify fun _ => rfl

theorem select (picked : Option Nat) :
    Transparent Recorded.state (report.select host.recorded settings picked)
      (report.select host settings picked) := by
  unfold Report.select
  cases picked with
  | none => exact of_value _
  | some index =>
      dsimp only
      cases report.finding? index with
      | none => exact log host _ _
      | some finding =>
          exact bind (of_modify fun _ => rfl) fun _ => refreshStatus host settings report

theorem showList :
    Transparent Recorded.state (report.showList host.recorded settings)
      (report.showList host settings) :=
  bind (of_modifyGet fun _ => rfl) (select host settings report)

theorem present :
    Transparent Recorded.state (report.present host.recorded settings)
      (report.present host settings) := by
  apply of_ite (of_value _)
  apply of_ite (of_value _)
  exact showList host settings report

theorem collectAndPresent (event : Event) :
    Transparent Recorded.state (collectAndPresent host.recorded settings target event)
      (collectAndPresent host settings target event) :=
  bind (collect host settings target event) fun report =>
    bind (present host settings report) fun _ => of_value _

theorem clear_all :
    Transparent Recorded.state (clearAllMarks host.recorded) (clearAllMarks host) := by
  intro recorded
  rfl

end Transparent

/-! ## At a desk -/

/-- The desk without its calls. -/
def Desk.plain (desk : Desk (Recorded State)) : Desk State := ⟨desk.sessions, desk.host.state⟩

def Checker.recorded (checker : Checker State) : Checker (Recorded State) :=
  ⟨checker.settings, checker.host.recorded⟩

namespace Transparent

theorem onHost {Value : Type} {recording : StateM (Recorded State) Value}
    {plain : StateM State Value} (action : Transparent Recorded.state recording plain) :
    Transparent Desk.plain (Checker.onHost recording) (Checker.onHost plain) := by
  intro desk
  exact congrArg (fun acted => (acted.1, (⟨desk.sessions, acted.2⟩ : Desk State)))
    (action desk.host)

variable (checker : Checker State) (target : Target)

theorem run (event : Event) :
    Transparent Desk.plain (checker.recorded.run target event) (checker.run target event) := by
  refine bind (of_modify fun _ => rfl) fun _ =>
    bind (onHost (collect checker.host checker.settings target event)) fun report =>
      bind (onHost (log checker.host _ _)) fun _ => bind (of_modify fun _ => rfl) fun _ => ?_
  exact bind (onHost (present checker.host checker.settings report)) fun _ => of_value report

theorem sniff :
    Transparent Desk.plain (checker.recorded.sniff target) (checker.sniff target) :=
  of_ite (bind (run checker target .explicit) fun _ => of_value _)
    (bind (onHost (log checker.host _ _)) fun _ => of_value _)

theorem save : Transparent Desk.plain (checker.recorded.save target) (checker.save target) :=
  of_ite (bind (run checker target .onSave) fun _ => of_value _) (of_value _)

theorem showPrevious :
    Transparent Desk.plain (checker.recorded.showPrevious target)
      (checker.showPrevious target) := by
  apply of_get
  intro desk
  apply of_ite
  · dsimp only [Desk.plain]
    cases desk.sessions.report? target.id with
    | none => exact of_value _
    | some report =>
        exact bind (onHost (showList checker.host checker.settings report)) fun _ => of_value _
  · exact of_value _

theorem clearMarks :
    Transparent Desk.plain (checker.recorded.clearMarks target) (checker.clearMarks target) :=
  of_ite (onHost (clear_all checker.host)) (of_value _)

theorem caretMoved :
    Transparent Desk.plain (checker.recorded.caretMoved target) (checker.caretMoved target) := by
  apply of_ite
  · apply of_get
    intro desk
    dsimp only [Desk.plain]
    cases desk.sessions.report? target.id with
    | none => exact of_value _
    | some report => exact onHost (refreshStatus checker.host checker.settings report)
  · exact of_value _

end Transparent

end Checkup
