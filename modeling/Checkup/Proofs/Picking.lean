import Checkup.Proofs.Isolation
import Checkup.Proofs.Terminal.Carets
import Checkup.Proofs.ToolOutput.TextRow
import Checkup.Proofs.Transparency

/-!
# Picking from the list

The messages of a report are shown as a list, and a pick is a position in it. On a page the pick
moves the caret to the row of the finding whose message was picked, and the status tells of the
last finding on that row.
-/

namespace Checkup

open Rehearsal (Call)
open Terminal (Page Prompt Screen shownLine lineCount)

variable {State : Type}

/-- The calls that the user is to notice. -/
def Rehearsal.Call.isPresentation : Call → Bool
  | .presentList _ | .focus _ | .setStatus _ | .clearStatus => true
  | .run _ | .clearMarks _ | .addMarks .. => false

/-- A host that places lines on a page and keeps the caret there. What the user picks is left
open. -/
structure CaretOn (page : Page) (host : Host State) (caret : State → Nat) : Prop where
  lineToAnchor : host.lineToAnchor = page.lineToAnchor
  caretRow : ∀ state, host.caretRow state = (page.anchorToCaret (caret state)).1
  isScratch : ∀ state, host.isScratch state = false
  focus : ∀ anchor state, caret (host.focus anchor state) = anchor
  presentList : ∀ items state, caret (host.presentList items state).2 = caret state
  setStatus : ∀ text state, caret (host.setStatus text state) = caret state
  clearStatus : ∀ state, caret (host.clearStatus state) = caret state
  run : ∀ vector state, caret (host.run vector state).2 = caret state
  log : ∀ level text state, caret (host.log level text state) = caret state
  clearMarks : ∀ owner state, caret (host.clearMarks owner state) = caret state
  addMarks : ∀ owner anchors marker state,
    caret (host.addMarks owner anchors marker state) = caret state

/-! ## While findings are collected -/

/-- No call that is made in a run is meant for the user. -/
def watchPresentations (host : Host State) : Watch host.recorded (List Call) where
  view recorded := recorded.calls.filter Call.isPresentation
  asked _ calls := calls
  cleared _ calls := calls
  marked _ _ _ calls := calls
  run _ _ := List.filter_append .. |>.trans (List.append_nil _)
  log _ _ _ := rfl
  clearMarks _ _ := List.filter_append .. |>.trans (List.append_nil _)
  addMarks _ _ _ _ := List.filter_append .. |>.trans (List.append_nil _)

theorem collect_presentations (host : Host State) (settings : Settings) (target : Target)
    (event : Event) (recorded : Recorded State) :
    ((collect host.recorded settings target event).run recorded).2.calls.filter
        Call.isPresentation =
      recorded.calls.filter Call.isPresentation :=
  (watchPresentations host).collect_unseen settings target (fun _ _ => rfl) (fun _ _ => rfl)
    (fun _ _ _ _ => rfl) event recorded

namespace CaretOn

variable {page : Page} {host : Host State} {caret : State → Nat}

/-- Recording the calls leaves the caret where it is. -/
theorem recorded (onPage : CaretOn page host caret) :
    CaretOn page host.recorded fun recorded => caret recorded.state where
  lineToAnchor := onPage.lineToAnchor
  caretRow _ := onPage.caretRow _
  isScratch _ := onPage.isScratch _
  focus _ _ := onPage.focus _ _
  presentList _ _ := onPage.presentList _ _
  setStatus _ _ := onPage.setStatus _ _
  clearStatus _ := onPage.clearStatus _
  run _ _ := onPage.run _ _
  log _ _ _ := onPage.log _ _ _
  clearMarks _ _ := onPage.clearMarks _ _
  addMarks _ _ _ _ := onPage.addMarks _ _ _ _

def watchCaret (onPage : CaretOn page host caret) : Watch host Nat where
  view := caret
  asked _ seen := seen
  cleared _ seen := seen
  marked _ _ _ seen := seen
  run := onPage.run
  log := onPage.log
  clearMarks := onPage.clearMarks
  addMarks := onPage.addMarks

theorem collect_caret (onPage : CaretOn page host caret) (settings : Settings) (target : Target)
    (event : Event) (state : State) :
    caret ((collect host settings target event).run state).2 = caret state :=
  onPage.watchCaret.collect_unseen settings target (fun _ _ => rfl) (fun _ _ => rfl)
    (fun _ _ _ _ => rfl) event state

end CaretOn

theorem collect_and_present_run (host : Host State) (settings : Settings) (target : Target)
    (event : Event) (state : State) :
    (collectAndPresent host settings target event).run state =
      let collected := (collect host settings target event).run state
      (collected.1, ((collected.1.present host settings).run collected.2).2) := rfl

/-! ## After a pick -/

/-- The call that shows the status for the last finding on a row, if there is one. -/
def statusCall : Option Finding → Call
  | some finding => .setStatus finding.message
  | none => .clearStatus

/-- A jump to a finding brings the caret to the row of the finding's line and tells the last
finding there. There is one unless the page does not have that line. -/
structure JumpsTo (finding : Finding) (content : Bytes) (report : Report) (calls : List Call)
    (row : Nat) : Prop where
  calls : calls =
    [.focus finding.anchor, statusCall (lastOn? report.findings (shownLine content finding.line))]
  row : row = shownLine content finding.line - 1
  untold : lastOn? report.findings (shownLine content finding.line) = none →
    finding.line = 0 ∨ lineCount content < finding.line

theorem shown_line_told {report : Report} {finding : Finding} (member : finding ∈ report.findings)
    {content : Bytes}
    (untold : lastOn? report.findings (shownLine content finding.line) = none) :
    finding.line = 0 ∨ lineCount content < finding.line := by
  by_contra own
  have shown : shownLine content finding.line = finding.line :=
    Terminal.shown_line_of_own (fun zero => own (.inl zero)) (by omega)
  rw [shown] at untold
  exact (last_on_none_iff _ _).1 untold finding member rfl

/-- What is not the position of a finding moves nothing. -/
theorem select_nothing {page : Page} {host : Host State} {caret : State → Nat}
    (onPage : CaretOn page host caret) (settings : Settings) {report : Report}
    {picked : Option Nat} (nothing : picked.bind report.finding? = none)
    (recorded : Recorded State) :
    let after := ((report.select host.recorded settings picked).run recorded).2
    after.calls = recorded.calls ∧ caret after.state = caret recorded.state := by
  intro after
  dsimp only [after]
  rw [Report.select_run]
  cases picked with
  | none => exact ⟨rfl, rfl⟩
  | some index =>
      rw [Option.bind_some] at nothing
      dsimp only
      rw [nothing]
      exact ⟨rfl, onPage.log ..⟩

section OnPage

variable {label : String} {content : Bytes} {interactive color : Bool}
  (fits : content.length + 1 < wordLimit) {host : Host State} {caret : State → Nat}
  (onPage : CaretOn (Page.ofBytes label content interactive color) host caret)

include fits onPage

/-- Behind a jump the status is looked up for the line that the caret was moved to. -/
theorem status_after_focus {report : Report} (paired : report.Paired) {finding : Finding}
    (anchored : finding.anchor = host.lineToAnchor finding.line) (state : State) :
    report.statusForRow? (host.caretRow (host.focus finding.anchor state)) =
      (lastOn? report.findings (shownLine content finding.line)).map (·.message) := by
  have row := Terminal.row_of_line label content interactive color finding.line
  have next := (Terminal.caret_exact label content interactive color fits
    (Terminal.anchor_within label content interactive color finding.line)).nextRow
  rw [row] at next
  have counted : shownLine content finding.line - 1 + 1 = shownLine content finding.line := by
    unfold shownLine lineCount
    omega
  rw [onPage.lineToAnchor] at anchored
  rw [Report.statusForRow?, onPage.caretRow, onPage.focus, anchored, row, next, counted,
    paired.lineIndex]

theorem select_jumps {report : Report} (paired : report.Paired) {settings : Settings}
    (status : settings.display.status = true) {index : Nat} {finding : Finding}
    (picked : report.finding? index = some finding)
    (anchored : finding.anchor = host.lineToAnchor finding.line) (recorded : Recorded State) :
    let after := ((report.select host.recorded settings (some index)).run recorded).2
    ∃ calls, after.calls = recorded.calls ++ calls ∧
      JumpsTo finding content report calls (host.caretRow after.state) := by
  intro after
  have onRecorded := onPage.recorded
  let focused := host.recorded.focus finding.anchor recorded
  have told : report.statusForRow? (host.recorded.caretRow focused) =
      (lastOn? report.findings (shownLine content finding.line)).map (·.message) :=
    status_after_focus fits onRecorded paired anchored recorded
  have row : ((Page.ofBytes label content interactive color).anchorToCaret finding.anchor).1 =
      shownLine content finding.line - 1 := by
    rw [anchored, onPage.lineToAnchor]
    exact Terminal.row_of_line ..
  have selected : after = match lastOn? report.findings (shownLine content finding.line) with
      | some last => host.recorded.setStatus last.message focused
      | none => host.recorded.clearStatus focused := by
    dsimp only [after]
    rw [Report.select_run]
    dsimp only
    rw [picked]
    dsimp only
    rw [Report.refresh_status_run, status, onRecorded.isScratch, told]
    cases lastOn? report.findings (shownLine content finding.line) with
    | none => rfl
    | some last => rfl
  refine ⟨_, ?_, rfl, ?_, shown_line_told (List.mem_of_getElem? picked)⟩
  · rw [selected]
    cases lastOn? report.findings (shownLine content finding.line) with
    | none => exact List.append_assoc ..
    | some last => exact List.append_assoc ..
  · have kept : caret after.state = finding.anchor := by
      rw [selected]
      cases lastOn? report.findings (shownLine content finding.line) with
      | none => exact (onRecorded.clearStatus focused).trans (onRecorded.focus ..)
      | some last => exact (onRecorded.setStatus _ focused).trans (onRecorded.focus ..)
    rw [onPage.caretRow, kept, row]

/-- In a run on demand one list is shown, that of the report's messages. A pick from it moves the
caret to the row of the line of the finding whose message was picked, or to the nearest row if the
page does not have that line, and the status tells the last finding of the row. A cancel and a
position beyond the list move nothing. Every anchor of the report has a caret that can be told in
words, and the run is the same without writing down its calls. -/
theorem picked_finding_focused {settings : Settings}
    (panel : settings.display.quickPanel = true) (status : settings.display.status = true)
    (target : Target) (start : State) :
    let page := Page.ofBytes label content interactive color
    let collected := (collect host.recorded settings target .explicit).run ⟨start, []⟩
    let report := collected.1
    let choice := (host.presentList report.messages collected.2.state).1
    let ran := (collectAndPresent host.recorded settings target .explicit).run ⟨start, []⟩
    let shown := ran.2.calls.filter Call.isPresentation
    ran.1 = report ∧
      (∀ finding ∈ report.findings, page.CaretExact finding.anchor) ∧
      (report.isEmpty = true → shown = []) ∧
      (report.isEmpty = false →
        ∃ calls, shown = .presentList report.messages :: calls ∧
          (∀ index, choice = some index → index < report.messages.length →
            ∃ finding, report.findings[index]? = some finding ∧
              report.messages[index]? = some finding.display ∧
                JumpsTo finding content report calls (host.caretRow ran.2.state)) ∧
          ((∀ index, choice = some index → report.messages.length ≤ index) →
            calls = [] ∧ caret ran.2.state = caret start)) ∧
      (collectAndPresent host settings target .explicit).run start = (ran.1, ran.2.state) := by
  intro page collected report choice ran shown
  have paired : report.Paired := collect_paired ..
  have event : report.event = .explicit := collect_event ..
  have anchored : ∀ finding ∈ report.findings,
      finding.anchor = host.lineToAnchor finding.line :=
    fun finding member => collect_anchored host.recorded settings target .explicit _ member
  have quiet : collected.2.calls.filter Call.isPresentation = [] :=
    collect_presentations host settings target .explicit ⟨start, []⟩
  have still : caret collected.2.state = caret start :=
    onPage.recorded.collect_caret settings target .explicit ⟨start, []⟩
  have composed : ran = (report, ((report.present host.recorded settings).run collected.2).2) :=
    collect_and_present_run host.recorded settings target .explicit ⟨start, []⟩
  have presented : ran.2 = ((report.present host.recorded settings).run collected.2).2 :=
    congrArg Prod.snd composed
  refine ⟨by rw [composed], ?_, ?_, ?_, ?_⟩
  · intro finding member
    rw [anchored finding member, onPage.lineToAnchor]
    exact Terminal.caret_exact label content interactive color fits
      (Terminal.anchor_within label content interactive color finding.line)
  · intro empty
    dsimp only [shown]
    rw [presented, Report.present_run, if_neg (by simp [empty])]
    exact quiet
  · intro found
    let answered := (host.recorded.presentList report.messages collected.2).2
    have selected : ran.2 = ((report.select host.recorded settings choice).run answered).2 := by
      rw [presented, Report.present_run, if_pos ⟨panel, found, by simp [event]⟩,
        Report.show_list_run]
      rfl
    have asked : answered.calls.filter Call.isPresentation = [.presentList report.messages] := by
      have listed : answered.calls = collected.2.calls ++ [.presentList report.messages] := rfl
      rw [listed, List.filter_append, quiet]
      rfl
    cases chosen : choice.bind report.finding? with
    | none =>
        obtain ⟨unchanged, unmoved⟩ := select_nothing onPage settings chosen answered
        refine ⟨[], ?_, ?_, ?_⟩
        · dsimp only [shown]
          rw [selected, unchanged, asked]
        · intro index position inside
          rw [position, Option.bind_some] at chosen
          rw [paired.messages, List.length_map] at inside
          exact absurd inside (Nat.not_lt.2 (List.getElem?_eq_none_iff.1 chosen))
        · intro _
          refine ⟨rfl, ?_⟩
          rw [selected, unmoved]
          exact (onPage.presentList ..).trans still
    | some finding =>
        obtain ⟨index, position, picked⟩ := Option.bind_eq_some_iff.1 chosen
        obtain ⟨calls, appended, jumps⟩ := select_jumps fits onPage paired status picked
          (anchored finding (List.mem_of_getElem? picked)) answered
        have displayed : report.messages[index]? = some finding.display := by
          rw [paired.messages, List.getElem?_map]
          exact congrArg (Option.map Finding.display) picked
        refine ⟨calls, ?_, ?_, ?_⟩
        · have noticed : calls.filter Call.isPresentation = calls := by
            rw [jumps.calls]
            cases lastOn? report.findings (shownLine content finding.line) <;> rfl
          dsimp only [shown]
          rw [selected, position, appended, List.filter_append, asked, noticed]
          rfl
        · intro other positionToo _
          cases position.symm.trans positionToo
          rw [selected, position]
          exact ⟨finding, picked, displayed, jumps⟩
        · intro beyond
          have inside := (List.getElem?_eq_some_iff.1 displayed).1
          exact absurd inside (Nat.not_lt.2 (beyond index position))
  · exact (Transparent.collectAndPresent host settings target .explicit ⟨start, []⟩).symm

end OnPage

/-- On a page the caret moves when it is told to, whatever the user picks. -/
theorem caret_on_surface (page : Page) (prompt : Prompt) (tools : List String → Bytes) :
    CaretOn page (Bench.beside (page.surface prompt) tools).host Screen.anchor where
  lineToAnchor := rfl
  caretRow _ := rfl
  isScratch _ := rfl
  focus _ _ := rfl
  presentList items screen := by
    change (page.presentList items screen prompt).2.anchor = screen.anchor
    unfold Page.presentList
    split
    · rfl
    split
    · rfl
    · rfl
  setStatus _ _ := rfl
  clearStatus _ := rfl
  run _ _ := rfl
  log _ _ _ := rfl
  clearMarks _ _ := rfl
  addMarks _ _ _ _ := rfl

/-- A document of four lines before a user who picks the second message. -/
def attended : Page := { threeLines with interactive := true }

def pickSecond : Prompt := fun _ _ => .ok (some 1)

/-- The mess detector finds something on the last line and behind it. -/
def twoRows (vector : List String) : Bytes :=
  if vector.head? = some "phpmd" then Bytes.ofString "a.php:4\tdeep\na.php:9\tlong\n" else []

/-- A pick of line nine in a document of four lines brings the caret to the last row, and the status
tells what was found there. -/
theorem line_behind_document_picked :
    let settings := Settings.default.enabling (· = .messDetector)
    let host := (Bench.beside (attended.surface pickSecond) twoRows).host
    let target := Target.ofPath (.ofString "a.php") "utf-8"
    let ran := (collectAndPresent host.recorded settings target .explicit).run ⟨{}, []⟩
    CaretOn attended host Screen.anchor ∧
      ran.2.calls.filter Call.isPresentation =
        [.presentList ["(4) deep", "(9) long"], .focus 14, .setStatus "deep"] ∧
      host.caretRow ran.2.state = 3 := by
  intro settings host target ran
  have onPage : CaretOn attended host Screen.anchor := caret_on_surface ..
  have fits : (Bytes.ofString "<?php\n\nfoo();\n").length + 1 < wordLimit := by decide
  have panel : settings.display.quickPanel = true := rfl
  have status : settings.display.status = true := rfl
  obtain ⟨-, -, -, presents, -⟩ := picked_finding_focused fits onPage panel status target {}
  let bench : Bench (Recorded Screen) := ⟨host.recorded, twoRows, fun _ _ => rfl⟩
  have read : Analyzer.messDetector.reads settings twoRows target = [⟨4, "deep"⟩, ⟨9, "long"⟩] := by
    have printed : Analyzer.messDetector.reads settings twoRows target =
        ToolOutput.parse settings (twoRows ["phpmd"]) "utf-8" .messDetector := rfl
    rw [printed, ToolOutput.TextRow.parse_rows]
    decide +kernel
  have found : ((collect host.recorded settings target .explicit).run ⟨{}, []⟩).1.findings =
      [⟨⟨4, "deep"⟩, 14⟩, ⟨⟨9, "long"⟩, 14⟩] := by
    rw [collect_on_bench bench, Bench.findings_alone]
    exact congrArg (List.map (Analyzer.place host.recorded)) read
  have listed := (collect_paired host.recorded settings target .explicit ⟨{}, []⟩).messages
  rw [found] at listed
  revert presents
  generalize ((collect host.recorded settings target .explicit).run ⟨{}, []⟩) = collected at *
  intro presents
  obtain ⟨calls, shown, jumps, -⟩ := presents (by rw [Report.isEmpty, listed]; rfl)
  have second : (host.presentList collected.1.messages collected.2.state).1 = some 1 := by
    rw [listed]
    rfl
  obtain ⟨finding, picked, -, jump⟩ := jumps 1 second (by rw [listed]; decide)
  rw [found] at picked
  cases picked
  refine ⟨onPage, ?_, ?_⟩
  · rw [shown, jump.calls, listed, found]
    decide +kernel
  · rw [jump.row]
    decide +kernel

end Checkup
