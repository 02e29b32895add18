import Checkup.Collect

/-!
# What presenting does

Each part of a presentation either leaves the state as it is or makes calls of the surface in a
fixed order.
-/

namespace Checkup.Report

variable {State : Type} (report : Report) (host : Host State) (settings : Settings)

theorem refresh_status_run (state : State) :
    (report.refreshStatus host settings).run state =
      ((), if !settings.display.status || host.isScratch state then state
        else match report.statusForRow? (host.caretRow state) with
          | some message => host.setStatus message state
          | none => host.clearStatus state) := by
  unfold refreshStatus
  simp only [StateT.run_bind, StateT.run_get, pure_bind]
  split
  · rfl
  · simp only [StateT.run_bind, StateT.run_get, pure_bind]
    cases report.statusForRow? (host.caretRow state) with
    | none => rfl
    | some message => rfl

theorem select_run (picked : Option Nat) (state : State) :
    (report.select host settings picked).run state =
      match picked with
      | none => ((), state)
      | some index =>
        match report.finding? index with
        | some finding =>
          (report.refreshStatus host settings).run (host.focus finding.anchor state)
        | none =>
          ((), host.log .detail ("selection " ++ toString index ++ " is out of range") state) := by
  unfold select
  cases picked with
  | none => rfl
  | some index =>
      dsimp only
      cases report.finding? index with
      | none => rfl
      | some finding => rfl

theorem show_list_run (state : State) :
    (report.showList host settings).run state =
      let answered := host.presentList report.messages state
      (report.select host settings answered.1).run answered.2 := rfl

/-- A report is shown unless it is empty or the settings forbid it for its event. -/
theorem present_run (state : State) :
    (report.present host settings).run state =
      if settings.display.quickPanel = true ∧ report.isEmpty = false ∧
          (report.event = .onSave → settings.display.onSave = true) then
        (report.showList host settings).run state
      else ((), state) := by
  unfold present
  cases settings.display.quickPanel with
  | false => simp; rfl
  | true =>
    cases report.isEmpty with
    | true => simp; rfl
    | false =>
      by_cases saved : report.event = .onSave
      · cases settings.display.onSave with
        | false => simp [saved]; rfl
        | true => simp [saved]
      · simp [saved]

end Checkup.Report
