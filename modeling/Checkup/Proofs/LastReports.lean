import Checkup.Proofs.CheckerHistory
import Checkup.Proofs.Transparency

/-!
# The last report of an identity

The requests of a history are made on hosts that write down their calls, which changes nothing
else. What each of them may do is stated once; what they leave behind together is the report of
the last run for each identity.
-/

namespace Checkup

open Rehearsal (Call)

variable {State : Type}

theorem Transparent.answer (checker : Checker State) (request : Request) :
    Transparent Desk.plain (checker.recorded.answer request) (checker.answer request) := by
  cases request with
  | sniff target => exact bind (sniff checker target) fun _ => of_value _
  | save target => exact bind (save checker target) fun _ => of_value _
  | canShowPrevious target => exact of_get fun _ => of_value _
  | showPrevious target => exact bind (showPrevious checker target) fun _ => of_value _
  | clearMarks target => exact bind (clearMarks checker target) fun _ => of_value _
  | caretMoved target => exact bind (caretMoved checker target) fun _ => of_value _
  | enter id => exact bind (of_modify fun _ => rfl) fun _ => of_value _

def Visit.recorded (visit : Visit State) : Visit (Recorded State) :=
  ⟨visit.host.recorded, visit.request⟩

variable (settings : Settings)

theorem serve_recorded (visit : Visit State) (desk : Desk (Recorded State)) :
    let recorded := visit.recorded.serve settings desk
    let plain := visit.serve settings desk.plain
    (recorded.answer, recorded.after.plain) = (plain.answer, plain.after) :=
  Transparent.answer ⟨settings, visit.host⟩ visit.request desk

/-- A history answers the same and ends at the same desk when its calls are written down. -/
theorem history_recorded (visits : List (Visit State)) (desk : Desk (Recorded State)) :
    let recorded := serveAll settings (visits.map Visit.recorded) desk
    let plain := serveAll settings visits desk.plain
    recorded.1.map (·.answer) = plain.1.map (·.answer) ∧ recorded.2.plain = plain.2 := by
  induction visits generalizing desk with
  | nil => exact ⟨rfl, rfl⟩
  | cons visit rest ih =>
      obtain ⟨answer, after⟩ := Prod.mk.inj (serve_recorded settings visit desk)
      obtain ⟨answers, ends⟩ := ih (visit.recorded.serve settings desk).after
      rw [List.map_cons, serveAll, serveAll]
      dsimp only
      rw [List.map_cons, List.map_cons, answer, answers, ends, after]
      exact ⟨rfl, rfl⟩

/-! ## What a request may do -/

/-- The law of an exchange. A run answers with the report that its own tools lead to. A request
that is turned away makes no call and leaves the sessions. A report is shown again if there is one
with messages for a checked target; then one list is shown, that of its messages. -/
structure Exchange.Lawful (exchange : Exchange (Recorded State)) : Prop where
  ran : ∀ target event, settings.occasion? exchange.visit.request = some (target, event) →
    let collected := (collect exchange.visit.host settings target event).run exchange.before.host
    exchange.answer = .report (some collected.1) ∧ collected.1.event = event
  refused : settings.refuses exchange.visit.request = true →
    exchange.answer = exchange.visit.request.refusal ∧
      exchange.after.sessions = exchange.before.sessions ∧
      exchange.after.host =
        exchange.visit.host.logAll exchange.visit.request.notes exchange.before.host ∧
      exchange.after.host.calls = exchange.before.host.calls
  couldShow : ∀ target, exchange.visit.request = .canShowPrevious target →
    exchange.answer =
        .shown (settings.previous? target exchange.before.sessions).isSome ∧
      exchange.after = exchange.before
  showed : ∀ target, exchange.visit.request = .showPrevious target →
    exchange.answer =
        .shown (settings.previous? target exchange.before.sessions).isSome ∧
      exchange.after.sessions = exchange.before.sessions ∧
      match settings.previous? target exchange.before.sessions with
      | none => exchange.after.host.calls = exchange.before.host.calls
      | some report => ∃ rest,
        exchange.after.host.calls =
            exchange.before.host.calls ++ .presentList report.messages :: rest ∧
          ∀ items, Call.presentList items ∉ rest

theorem serve_lawful (visit : Visit State) (desk : Desk (Recorded State)) :
    (visit.recorded.serve settings desk).Lawful settings where
  ran target event occasion := by
    unfold Visit.serve at occasion ⊢
    dsimp only
    rw [Checker.answer_of_run ⟨settings, visit.recorded.host⟩ occasion, Checker.run_run,
      collect_run]
    exact ⟨rfl, Report.event_of_entries ..⟩
  refused refusal := by
    unfold Visit.serve at refusal ⊢
    dsimp only
    rw [Checker.answer_of_refusal ⟨settings, visit.recorded.host⟩ refusal]
    exact ⟨rfl, rfl, rfl, log_all_calls ..⟩
  couldShow target asked := by
    unfold Visit.serve at asked ⊢
    dsimp only at asked ⊢
    rw [asked, Checker.answer_run]
    dsimp only
    rw [Checker.can_show_previous_iff]
    exact ⟨rfl, rfl⟩
  showed target asked := by
    unfold Visit.serve at asked ⊢
    dsimp only at asked ⊢
    rw [asked, Checker.answer_run]
    dsimp only
    rw [Checker.show_previous_run]
    dsimp only
    cases settings.previous? target desk.sessions with
    | none => exact ⟨rfl, rfl, rfl⟩
    | some report => exact ⟨rfl, rfl, show_list_calls ..⟩

/-! ## What a history leaves behind -/

/-- For each identity the sessions hold the report of the last run on it, and there is one session
for each identity that was run on or opened. The tools that were run are those of the runs, in
order, and every request keeps to its law. Without writing down the calls the answers and the
desk at the end are the same. -/
theorem sessions_hold_last_reports (visits : List (Visit State)) (start : State) :
    let served := serveAll settings (visits.map Visit.recorded) ⟨∅, ⟨start, []⟩⟩
    let plain := serveAll settings visits ⟨∅, start⟩
    (∀ id, served.2.sessions.report? id =
        served.1.reverse.findSome? (Exchange.filed? settings · id)) ∧
      served.2.sessions.size = (visits.filterMap (settings.opened? ·.request)).dedup.length ∧
      served.2.host.questions = visits.flatMap (settings.questions ·.request) ∧
      served.1.map (·.visit) = visits.map Visit.recorded ∧
      (∀ exchange ∈ served.1, exchange.Lawful settings) ∧
      served.1.map (·.answer) = plain.1.map (·.answer) ∧
      served.2.plain = plain.2 := by
  intro served plain
  have opened : ∀ id, id ∈ served.2.sessions ↔
      id ∈ visits.filterMap (settings.opened? ·.request) := by
    intro id
    have requests : (visits.map Visit.recorded).filterMap (settings.opened? ·.request) =
        visits.filterMap (settings.opened? ·.request) := List.filterMap_map ..
    rw [history_opened, requests]
    simp
  have asked : served.2.host.questions = visits.flatMap (settings.questions ·.request) := by
    have requests : (visits.map Visit.recorded).flatMap (settings.questions ·.request) =
        visits.flatMap (settings.questions ·.request) := List.flatMap_map ..
    have questioned : ∀ visit ∈ visits.map Visit.recorded,
        Questioned visit.host Recorded.questions := by
      intro visit member
      obtain ⟨plainVisit, -, same⟩ := List.mem_map.1 member
      rw [← same]
      exact recorded_questioned plainVisit.host
    rw [← requests]
    exact history_questions settings _ _ questioned
  have lawful : ∀ exchange ∈ served.1, exchange.Lawful settings := by
    intro exchange member
    have visited : exchange.visit ∈ visits.map Visit.recorded := by
      rw [← history_visits settings (visits.map Visit.recorded) ⟨∅, ⟨start, []⟩⟩]
      exact List.mem_map_of_mem member
    obtain ⟨plainVisit, -, same⟩ := List.mem_map.1 visited
    rw [history_served settings _ _ exchange member, ← same]
    exact serve_lawful settings plainVisit exchange.before
  obtain ⟨answers, ends⟩ := history_recorded settings visits ⟨∅, ⟨start, []⟩⟩
  refine ⟨?_, Sessions.size_of_members _ _ opened, asked, history_visits .., lawful, answers, ends⟩
  intro id
  rw [history_report, Sessions.report_empty, Option.or_none]

end Checkup
