import Checkup.Collect
import Checkup.Proofs.Report

/-!
# What a run collects

A run asks the three analyzers in their order. Each entry holds the violations that its analyzer
read, placed at the anchors of their lines.
-/

namespace Checkup

open ToolOutput (Violation)

variable {State : Type}

namespace Analyzer

/-- The violation at the anchor that the surface gives to its line. -/
def place (host : Host State) (violation : Violation) : Finding :=
  { violation with anchor := host.lineToAnchor violation.line }

/-- What becomes of the state once the findings of an analyzer are known. -/
def renewMarks (analyzer : Analyzer) (host : Host State) (settings : Settings)
    (findings : List Finding) (state : State) : State :=
  let noted := host.log .detail
    (analyzer.name ++ " found " ++ toString findings.length ++ " errors") state
  let cleared := host.clearMarks analyzer.name noted
  if !findings.isEmpty && settings.display.gutterMarks then
    host.addMarks analyzer.name (findings.map (·.anchor)) analyzer.marker cleared
  else cleared

theorem collect_run (analyzer : Analyzer) (host : Host State) (settings : Settings)
    (target : Target) (state : State) :
    (analyzer.collect host settings target).run state =
      let reported := (analyzer.violations host settings target).run state
      let findings := reported.1.map (place host)
      (⟨analyzer, findings⟩, analyzer.renewMarks host settings findings reported.2) := by
  rcases reported : (analyzer.violations host settings target).run state with ⟨violations, after⟩
  have placed : (fun violation : Violation =>
      ({ violation with anchor := host.lineToAnchor violation.line } : Finding)) =
      place host := rfl
  simp only [collect, StateT.run_bind, reported, renewMarks, placed, List.length_map]
  dsimp only [Id.run, bind, StateT.run_modify]
  split
  · rfl
  · rfl

/-- The entry holds what its analyzer read in some state, placed and in the order read. -/
def Reported (host : Host State) (settings : Settings) (target : Target) (entry : Entry) : Prop :=
  ∃ reached : State, entry.findings =
    ((entry.analyzer.violations host settings target).run reached).1.map (place host)

def collectEach (analyzers : List Analyzer) (host : Host State) (settings : Settings)
    (target : Target) : StateM State (List Entry) :=
  analyzers.mapM fun analyzer => analyzer.collect host settings target

theorem collect_each_cons_run (analyzer : Analyzer) (rest : List Analyzer) (host : Host State)
    (settings : Settings) (target : Target) (state : State) :
    (collectEach (analyzer :: rest) host settings target).run state =
      let own := (analyzer.collect host settings target).run state
      let others := (collectEach rest host settings target).run own.2
      (own.1 :: others.1, others.2) := by
  rw [collectEach, List.mapM_cons]
  rfl

theorem collect_each_analyzers (analyzers : List Analyzer) (host : Host State)
    (settings : Settings) (target : Target) (state : State) :
    ((collectEach analyzers host settings target).run state).1.map (·.analyzer) = analyzers := by
  induction analyzers generalizing state with
  | nil => rfl
  | cons analyzer rest ih =>
      rw [collect_each_cons_run]
      simp only [List.map_cons, ih, collect_run]

theorem collect_each_reported (analyzers : List Analyzer) (host : Host State)
    (settings : Settings) (target : Target) (state : State) (entry : Entry)
    (member : entry ∈ ((collectEach analyzers host settings target).run state).1) :
    Reported host settings target entry := by
  induction analyzers generalizing state with
  | nil => cases member
  | cons analyzer rest ih =>
      rw [collect_each_cons_run] at member
      rcases List.mem_cons.1 member with own | later
      · rw [own, collect_run]
        exact ⟨state, rfl⟩
      · exact ih _ later

end Analyzer

theorem collect_run (host : Host State) (settings : Settings) (target : Target) (event : Event)
    (state : State) :
    (collect host settings target event).run state =
      let entries := (Analyzer.collectEach Analyzer.all host settings target).run state
      (.ofEntries event entries.1, entries.2) := rfl

theorem collect_analyzers (host : Host State) (settings : Settings) (target : Target)
    (event : Event) (state : State) :
    ((collect host settings target event).run state).1.entries.map (·.analyzer) =
      Analyzer.all := by
  rw [collect_run]
  dsimp only
  rw [Report.entries_of_entries]
  exact Analyzer.collect_each_analyzers Analyzer.all host settings target state

theorem collect_event (host : Host State) (settings : Settings) (target : Target) (event : Event)
    (state : State) : ((collect host settings target event).run state).1.event = event :=
  Report.event_of_entries event _

theorem collect_paired (host : Host State) (settings : Settings) (target : Target)
    (event : Event) (state : State) :
    ((collect host settings target event).run state).1.Paired :=
  Report.paired_of_entries event _

theorem collect_anchored (host : Host State) (settings : Settings) (target : Target)
    (event : Event) (state : State) {finding : Finding}
    (member : finding ∈ ((collect host settings target event).run state).1.findings) :
    finding.anchor = host.lineToAnchor finding.line := by
  obtain ⟨entry, present, inside⟩ := List.mem_flatMap.1 member
  rw [collect_run, Report.entries_of_entries] at present
  obtain ⟨reached, read⟩ := Analyzer.collect_each_reported _ host settings target state entry present
  rw [read] at inside
  obtain ⟨violation, -, placed⟩ := List.mem_map.1 inside
  rw [← placed]
  rfl

theorem clear_all_marks_run (host : Host State) (state : State) :
    (clearAllMarks host).run state =
      ((), Analyzer.all.foldl (fun state analyzer => host.clearMarks analyzer.name state) state) :=
  rfl

/-- Whatever the tools print and wherever the surface places lines, the report of a run has one
entry for each analyzer, in their order, with the violations that the analyzer read at the anchors
of their lines; and it is in step, as is every report that grows by pushes. -/
theorem collected_report_in_step (host : Host State) (settings : Settings) (target : Target)
    (event : Event) (state : State) :
    let report := ((collect host settings target event).run state).1
    report.entries.map (·.analyzer) = [.linter, .sniffer, .messDetector] ∧
      (∀ entry ∈ report.entries, Analyzer.Reported host settings target entry) ∧
      (∀ finding ∈ report.findings, finding.anchor = host.lineToAnchor finding.line) ∧
      report.InStep ∧
      ∀ (grownFor : Event) (pushed : List Entry), (Report.ofEntries grownFor pushed).InStep := by
  intro report
  have entries : report.entries =
      ((Analyzer.collectEach Analyzer.all host settings target).run state).1 := by
    dsimp only [report]
    rw [collect_run, Report.entries_of_entries]
  have reported : ∀ entry ∈ report.entries, Analyzer.Reported host settings target entry := by
    intro entry member
    rw [entries] at member
    exact Analyzer.collect_each_reported Analyzer.all host settings target state entry member
  refine ⟨?_, reported, ?_, ?_, ?_⟩
  · rw [entries]
    exact Analyzer.collect_each_analyzers Analyzer.all host settings target state
  · intro finding member
    obtain ⟨entry, present, inside⟩ := List.mem_flatMap.1 member
    obtain ⟨reached, read⟩ := reported entry present
    rw [read] at inside
    obtain ⟨violation, _, placed⟩ := List.mem_map.1 inside
    rw [← placed]
    rfl
  · exact (Report.paired_of_entries _ _).in_step
  · intro grownFor pushed
    exact (Report.paired_of_entries grownFor pushed).in_step

end Checkup
