import Checkup.Proofs.Recording
import Checkup.Proofs.Sessions

/-!
# A checker over time

A checker is asked one thing after the other, each time on a host and about a target of its own.
What its sessions hold is the report of the last run for each identity; tools are run in runs only;
and whoever asks about a target that is not checked changes nothing.
-/

namespace Checkup

open Rehearsal (Call)

variable {State : Type}

inductive Request where
  | sniff (target : Target)
  | save (target : Target)
  | canShowPrevious (target : Target)
  | showPrevious (target : Target)
  | clearMarks (target : Target)
  | caretMoved (target : Target)
  | enter (id : String)

inductive Answer where
  | report (report : Option Report)
  | shown (shown : Bool)
  | done

def Answer.report? : Answer → Option Report
  | .report made => made
  | _ => none

def Checker.answer (checker : Checker State) : Request → StateM (Desk State) Answer
  | .sniff target => return .report (← checker.sniff target)
  | .save target => return .report (← checker.save target)
  | .canShowPrevious target => return .shown (checker.canShowPrevious target (← get).sessions)
  | .showPrevious target => return .shown (← checker.showPrevious target)
  | .clearMarks target => do
    checker.clearMarks target
    return .done
  | .caretMoved target => do
    checker.caretMoved target
    return .done
  | .enter id => do
    Checker.enter id
    return .done

/-! ## What a request calls for -/

/-- The run that a request makes: its target and its event. -/
def Settings.occasion? (settings : Settings) : Request → Option (Target × Event)
  | .sniff target => if settings.checks target then some (target, .explicit) else none
  | .save target =>
    if settings.runOnSave && settings.checks target then some (target, .onSave) else none
  | _ => none

/-- Requests that are turned away: those about a target that is not checked, and those after a save
when the settings do not ask for a run. -/
def Settings.refuses (settings : Settings) : Request → Bool
  | .sniff target | .canShowPrevious target | .showPrevious target | .clearMarks target
  | .caretMoved target => !settings.checks target
  | .save target => !(settings.runOnSave && settings.checks target)
  | .enter _ => false

/-- The identity whose session a request opens, by a run or for its own sake. -/
def Settings.opened? (settings : Settings) (request : Request) : Option String :=
  match settings.occasion? request, request with
  | some (target, _), _ => some target.id
  | none, .enter id => some id
  | none, _ => none

/-- The argument vectors that a request runs tools with. -/
def Settings.questions (settings : Settings) (request : Request) : List (List String) :=
  match settings.occasion? request with
  | some (target, _) => target.path.toList.flatMap settings.invocations
  | none => []

/-- The stored report of a target, if it can be shown again. -/
def Settings.previous? (settings : Settings) (target : Target) (sessions : Sessions) :
    Option Report :=
  if settings.checks target then (sessions.report? target.id).filter (!·.isEmpty) else none

theorem path_of_checked {settings : Settings} {target : Target}
    (checked : settings.checks target = true) : ∃ path, target.path = some path := by
  cases file : target.path with
  | none => simp [Settings.checks, Target.extension?, file] at checked
  | some path => exact ⟨path, rfl⟩

theorem occasion_checked {settings : Settings} {request : Request} {target : Target}
    {event : Event} (runs : settings.occasion? request = some (target, event)) :
    settings.checks target = true := by
  cases request with
  | sniff asked =>
      obtain ⟨checked, same⟩ := Option.ite_none_right_eq_some.1 runs
      cases same
      exact checked
  | save asked =>
      obtain ⟨checked, same⟩ := Option.ite_none_right_eq_some.1 runs
      cases same
      exact (Bool.and_eq_true_iff.1 checked).2
  | _ => cases runs

/-- To sniff or to save makes a run unless it is turned away. -/
theorem refuses_run (settings : Settings) (target : Target) :
    settings.refuses (.sniff target) = (settings.occasion? (.sniff target)).isNone ∧
      settings.refuses (.save target) = (settings.occasion? (.save target)).isNone := by
  unfold Settings.refuses Settings.occasion?
  by_cases checked : settings.checks target = true <;>
    by_cases saved : settings.runOnSave = true <;> simp [checked, saved]

/-- What a request is answered when it is turned away. -/
def Request.refusal : Request → Answer
  | .sniff _ | .save _ => .report none
  | .canShowPrevious _ | .showPrevious _ => .shown false
  | _ => .done

/-- What a request without a run does to the sessions. -/
def Request.opening (request : Request) (sessions : Sessions) : Sessions :=
  match request with
  | .enter id => sessions.enter id
  | _ => sessions

/-- What the log is told when a request is turned away. -/
def Request.notes : Request → List (LogLevel × String)
  | .sniff target => [(.detail, "skipping " ++ target.id ++ ": extension not enabled")]
  | _ => []

namespace Checker

variable (checker : Checker State)

/-- A run opens the session, collects, stores the report and presents it. -/
theorem run_run (target : Target) (event : Event) (desk : Desk State) :
    (checker.run target event).run desk =
      let collected := (collect checker.host checker.settings target event).run desk.host
      let noted := checker.host.log .detail
        (target.id ++ ": stored " ++ toString collected.1.messages.length ++ " message(s)")
        collected.2
      let presented := (collected.1.present checker.host checker.settings).run noted
      (collected.1,
        ⟨(desk.sessions.enter target.id).store target.id collected.1, presented.2⟩) := rfl

theorem sniff_run (target : Target) (desk : Desk State) :
    (checker.sniff target).run desk =
      if checker.settings.checks target then
        let ran := (checker.run target .explicit).run desk
        (some ran.1, ran.2)
      else
        (none, { desk with
          host := checker.host.log .detail
            ("skipping " ++ target.id ++ ": extension not enabled") desk.host }) := by
  unfold sniff
  split
  · rfl
  · rfl

theorem save_run (target : Target) (desk : Desk State) :
    (checker.save target).run desk =
      if checker.settings.runOnSave && checker.settings.checks target then
        let ran := (checker.run target .onSave).run desk
        (some ran.1, ran.2)
      else (none, desk) := by
  unfold save
  split
  · rfl
  · rfl

theorem can_show_previous_iff (target : Target) (sessions : Sessions) :
    checker.canShowPrevious target sessions =
      (checker.settings.previous? target sessions).isSome := by
  rw [canShowPrevious, Sessions.hasMessages, Settings.previous?]
  cases checker.settings.checks target with
  | false => rfl
  | true =>
      cases sessions.report? target.id with
      | none => rfl
      | some report => cases empty : report.isEmpty <;> simp [empty]

theorem show_previous_run (target : Target) (desk : Desk State) :
    (checker.showPrevious target).run desk =
      match checker.settings.previous? target desk.sessions with
      | some report =>
        (true,
          { desk with host := ((report.showList checker.host checker.settings).run desk.host).2 })
      | none => (false, desk) := by
  unfold showPrevious
  simp only [StateT.run_bind, StateT.run_get, pure_bind]
  rw [can_show_previous_iff]
  cases previous : checker.settings.previous? target desk.sessions with
  | none => rfl
  | some report =>
      obtain ⟨-, kept⟩ := Option.ite_none_right_eq_some.1 previous
      obtain ⟨stored, -⟩ := Option.filter_eq_some_iff.1 kept
      rw [stored]
      rfl

theorem caret_moved_run (target : Target) (desk : Desk State) :
    (checker.caretMoved target).run desk =
      if checker.settings.checks target then
        match desk.sessions.report? target.id with
        | some report =>
          ((), { desk with
            host := ((report.refreshStatus checker.host checker.settings).run desk.host).2 })
        | none => ((), desk)
      else ((), desk) := by
  unfold caretMoved
  split
  · simp only [StateT.run_bind, StateT.run_get, pure_bind]
    cases desk.sessions.report? target.id with
    | none => rfl
    | some report => rfl
  · rfl

theorem clear_marks_run (target : Target) (desk : Desk State) :
    (checker.clearMarks target).run desk =
      if checker.settings.checks target then
        ((), { desk with host := ((clearAllMarks checker.host).run desk.host).2 })
      else ((), desk) := by
  unfold clearMarks
  split
  · rfl
  · rfl

/-! ## One request -/

theorem answer_run (request : Request) (desk : Desk State) :
    (checker.answer request).run desk =
      match request with
      | .sniff target =>
        let made := (checker.sniff target).run desk
        (.report made.1, made.2)
      | .save target =>
        let made := (checker.save target).run desk
        (.report made.1, made.2)
      | .canShowPrevious target => (.shown (checker.canShowPrevious target desk.sessions), desk)
      | .showPrevious target =>
        let shown := (checker.showPrevious target).run desk
        (.shown shown.1, shown.2)
      | .clearMarks target => (.done, ((checker.clearMarks target).run desk).2)
      | .caretMoved target => (.done, ((checker.caretMoved target).run desk).2)
      | .enter id => (.done, { desk with sessions := desk.sessions.enter id }) := by
  cases request <;> rfl

theorem answer_of_run {request : Request} {target : Target} {event : Event}
    (runs : checker.settings.occasion? request = some (target, event)) (desk : Desk State) :
    (checker.answer request).run desk =
      let ran := (checker.run target event).run desk
      (.report (some ran.1), ran.2) := by
  rw [answer_run]
  cases request with
  | sniff asked =>
      obtain ⟨checked, same⟩ := Option.ite_none_right_eq_some.1 runs
      cases same
      dsimp only
      rw [sniff_run, if_pos checked]
  | save asked =>
      obtain ⟨checked, same⟩ := Option.ite_none_right_eq_some.1 runs
      cases same
      dsimp only
      rw [save_run, if_pos checked]
  | _ => cases runs

/-- A request that is turned away is answered without the host, but for a line in its log. -/
theorem answer_of_refusal {request : Request} (refused : checker.settings.refuses request = true)
    (desk : Desk State) :
    (checker.answer request).run desk =
      (request.refusal, { desk with host := checker.host.logAll request.notes desk.host }) := by
  have nothingToShow {target : Target} (unchecked : checker.settings.checks target = false) :
      checker.settings.previous? target desk.sessions = none := by
    rw [Settings.previous?, if_neg (by simp [unchecked])]
  rw [answer_run]
  cases request with
  | sniff target =>
      rw [Settings.refuses, Bool.not_eq_true'] at refused
      dsimp only
      rw [sniff_run, if_neg (by simp [refused])]
      rfl
  | save target =>
      rw [Settings.refuses, Bool.not_eq_true'] at refused
      dsimp only
      rw [save_run, if_neg (by simp [refused])]
      rfl
  | canShowPrevious target =>
      rw [Settings.refuses, Bool.not_eq_true'] at refused
      dsimp only
      rw [can_show_previous_iff, nothingToShow refused]
      rfl
  | showPrevious target =>
      rw [Settings.refuses, Bool.not_eq_true'] at refused
      dsimp only
      rw [show_previous_run, nothingToShow refused]
      rfl
  | clearMarks target =>
      rw [Settings.refuses, Bool.not_eq_true'] at refused
      dsimp only
      rw [clear_marks_run, if_neg (by simp [refused])]
      rfl
  | caretMoved target =>
      rw [Settings.refuses, Bool.not_eq_true'] at refused
      dsimp only
      rw [caret_moved_run, if_neg (by simp [refused])]
      rfl
  | enter id => cases refused

/-- A request that makes no run opens at most the session it asks for, and runs no tool. -/
theorem answer_without_run {request : Request} (idle : checker.settings.occasion? request = none)
    (desk : Desk State) :
    let answered := (checker.answer request).run desk
    answered.1.report? = none ∧
      answered.2.sessions = request.opening desk.sessions ∧
      ∀ questions, Questioned checker.host questions →
        questions answered.2.host = questions desk.host := by
  cases accepted : checker.settings.refuses request with
  | true =>
      rw [answer_of_refusal checker accepted]
      refine ⟨by cases request <;> rfl, ?_, fun questions questioned => questioned.watch.log_all ..⟩
      cases request with
      | enter id => cases accepted
      | _ => rfl
  | false =>
      rw [answer_run]
      cases request with
      | sniff target =>
          rw [(refuses_run checker.settings target).1, idle] at accepted
          cases accepted
      | save target =>
          rw [(refuses_run checker.settings target).2, idle] at accepted
          cases accepted
      | canShowPrevious target => exact ⟨rfl, rfl, fun _ _ => rfl⟩
      | showPrevious target =>
          dsimp only
          rw [show_previous_run]
          split
          · exact ⟨rfl, rfl, fun questions questioned => questioned.showList ..⟩
          · exact ⟨rfl, rfl, fun _ _ => rfl⟩
      | clearMarks target =>
          dsimp only
          rw [clear_marks_run]
          split
          · exact ⟨rfl, rfl, fun questions questioned => questioned.clear_all ..⟩
          · exact ⟨rfl, rfl, fun _ _ => rfl⟩
      | caretMoved target =>
          dsimp only
          rw [caret_moved_run]
          split
          · split
            · exact ⟨rfl, rfl, fun questions questioned => questioned.refreshStatus ..⟩
            · exact ⟨rfl, rfl, fun _ _ => rfl⟩
          · exact ⟨rfl, rfl, fun _ _ => rfl⟩
      | enter id => exact ⟨rfl, rfl, fun _ _ => rfl⟩

end Checker

/-! ## A history of requests -/

/-- A request, with the host that it is made on. -/
structure Visit (State : Type) where
  host : Host State
  request : Request

/-- What came of a visit. -/
structure Exchange (State : Type) where
  visit : Visit State
  before : Desk State
  answer : Answer
  after : Desk State

def Visit.serve (visit : Visit State) (settings : Settings) (desk : Desk State) :
    Exchange State :=
  let checker : Checker State := ⟨settings, visit.host⟩
  let answered := (checker.answer visit.request).run desk
  ⟨visit, desk, answered.1, answered.2⟩

/-- Serves visits one after the other. -/
def serveAll (settings : Settings) :
    List (Visit State) → Desk State → List (Exchange State) × Desk State
  | [], desk => ([], desk)
  | visit :: rest, desk =>
    let exchange := visit.serve settings desk
    let later := serveAll settings rest exchange.after
    (exchange :: later.1, later.2)

namespace Exchange

variable (settings : Settings) (exchange : Exchange State)

/-- The report of a run for an identity, if this was one. -/
def filed? (id : String) : Option Report :=
  match settings.occasion? exchange.visit.request with
  | some (target, _) => if target.id = id then exchange.answer.report? else none
  | none => none

end Exchange

variable (settings : Settings)

/-- A run files its report under the identity of its target, and nothing else files any. -/
theorem serve_report (visit : Visit State) (desk : Desk State) (id : String) :
    let exchange := visit.serve settings desk
    exchange.after.sessions.report? id =
      (exchange.filed? settings id).or (desk.sessions.report? id) := by
  unfold Visit.serve Exchange.filed?
  dsimp only
  cases occasion : settings.occasion? visit.request with
  | none =>
      obtain ⟨-, sessions, -⟩ := Checker.answer_without_run ⟨settings, visit.host⟩ occasion desk
      rw [sessions]
      cases visit.request with
      | enter other => exact Sessions.report_enter ..
      | _ => rfl
  | some run =>
      obtain ⟨target, event⟩ := run
      rw [Checker.answer_of_run ⟨settings, visit.host⟩ occasion, Checker.run_run]
      dsimp only
      rw [Sessions.report_store, Sessions.report_enter]
      by_cases same : target.id = id
      · rw [if_pos same, if_pos same]
        rfl
      · rw [if_neg same, if_neg same]
        rfl

theorem serve_opened (visit : Visit State) (desk : Desk State) (id : String) :
    id ∈ (visit.serve settings desk).after.sessions ↔
      settings.opened? visit.request = some id ∨ id ∈ desk.sessions := by
  unfold Visit.serve Settings.opened?
  dsimp only
  cases occasion : settings.occasion? visit.request with
  | none =>
      obtain ⟨-, sessions, -⟩ := Checker.answer_without_run ⟨settings, visit.host⟩ occasion desk
      rw [sessions]
      cases visit.request with
      | enter other => simp [Request.opening, Sessions.mem_enter]
      | _ => simp [Request.opening]
  | some run =>
      obtain ⟨target, event⟩ := run
      rw [Checker.answer_of_run ⟨settings, visit.host⟩ occasion, Checker.run_run]
      simp [Sessions.mem_store, Sessions.mem_enter]

theorem serve_questions (visit : Visit State) (desk : Desk State)
    {questions : State → List (List String)} (questioned : Questioned visit.host questions) :
    questions (visit.serve settings desk).after.host =
      questions desk.host ++ settings.questions visit.request := by
  unfold Visit.serve Settings.questions
  dsimp only
  cases occasion : settings.occasion? visit.request with
  | none =>
      obtain ⟨-, -, kept⟩ := Checker.answer_without_run ⟨settings, visit.host⟩ occasion desk
      exact (kept questions questioned).trans (List.append_nil _).symm
  | some run =>
      obtain ⟨target, event⟩ := run
      obtain ⟨path, file⟩ := path_of_checked (occasion_checked occasion)
      rw [Checker.answer_of_run ⟨settings, visit.host⟩ occasion, Checker.run_run]
      dsimp only
      rw [questioned.present, questioned.log, questioned.collect settings target event _ file, file]
      simp

/-! ## The whole history -/

theorem history_report (visits : List (Visit State)) (desk : Desk State) (id : String) :
    let served := serveAll settings visits desk
    served.2.sessions.report? id =
      (served.1.reverse.findSome? (Exchange.filed? settings · id)).or
        (desk.sessions.report? id) := by
  induction visits generalizing desk with
  | nil => rfl
  | cons visit rest ih =>
      rw [serveAll]
      dsimp only at ih ⊢
      rw [ih, serve_report, List.reverse_cons, List.findSome?_append, Option.or_assoc]
      simp

theorem history_opened (visits : List (Visit State)) (desk : Desk State) (id : String) :
    id ∈ (serveAll settings visits desk).2.sessions ↔
      id ∈ visits.filterMap (settings.opened? ·.request) ∨ id ∈ desk.sessions := by
  induction visits generalizing desk with
  | nil => simp [serveAll]
  | cons visit rest ih =>
      rw [serveAll]
      dsimp only
      rw [ih, serve_opened, List.filterMap_cons]
      cases opened : settings.opened? visit.request with
      | none => simp
      | some other =>
          rw [List.mem_cons, Option.some.injEq, @eq_comm _ other, or_assoc, or_left_comm]

theorem history_questions (visits : List (Visit State)) (desk : Desk State)
    {questions : State → List (List String)}
    (questioned : ∀ visit ∈ visits, Questioned visit.host questions) :
    questions (serveAll settings visits desk).2.host =
      questions desk.host ++ visits.flatMap (settings.questions ·.request) := by
  induction visits generalizing desk with
  | nil => exact (List.append_nil _).symm
  | cons visit rest ih =>
      rw [serveAll]
      dsimp only
      rw [ih _ fun later member => questioned later (List.mem_cons_of_mem _ member),
        serve_questions settings visit desk (questioned visit List.mem_cons_self),
        List.append_assoc]
      rfl

/-- Every visit is served, in order. -/
theorem history_visits (visits : List (Visit State)) (desk : Desk State) :
    (serveAll settings visits desk).1.map (·.visit) = visits := by
  induction visits generalizing desk with
  | nil => rfl
  | cons visit rest ih => exact congrArg (List.cons visit) (ih _)

theorem history_served (visits : List (Visit State)) (desk : Desk State) :
    ∀ exchange ∈ (serveAll settings visits desk).1,
      exchange = exchange.visit.serve settings exchange.before := by
  induction visits generalizing desk with
  | nil => nofun
  | cons visit rest ih =>
      intro exchange member
      rcases List.mem_cons.1 member with same | later
      · rw [same]
        rfl
      · exact ih _ exchange later

end Checkup
