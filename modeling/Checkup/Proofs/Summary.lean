import Checkup.Summary
import Checkup.Proofs.Report
import Checkup.Proofs.Terminal.Signs
import Mathlib.Algebra.GroupWithZero.Nat
import Mathlib.Data.List.Forall2

/-!
# Totals and lines

A file has one line for each finding, in the order of its report. The totals count findings by the
name of their analyzer, and no two analyzers share a name, so all totals together tell how many
lines were printed.
-/

namespace Checkup

open Terminal (Emphasis Sign bold emphasis_styled sign_glyph styled)

theorem Analyzer.name_injective : Function.Injective Analyzer.name := by
  intro analyzer other same
  cases analyzer <;> cases other <;> first | rfl | exact absurd same (by decide)

namespace Report

/-- The findings of one analyzer. -/
def findingsOf (report : Report) (analyzer : Analyzer) : List Finding :=
  (report.entries.filter (·.analyzer = analyzer)).flatMap (·.findings)

/-- The findings in order, each beside the analyzer that found it. -/
def told (report : Report) : List (Analyzer × Finding) :=
  report.entries.flatMap fun entry => entry.findings.map (entry.analyzer, ·)

theorem told_findings (report : Report) : report.told.map (·.2) = report.findings := by
  simp [told, findings, List.map_flatMap, Function.comp_def]

theorem count_name (report : Report) (analyzer : Analyzer) :
    report.count analyzer.name = (report.findingsOf analyzer).length := by
  have own : (fun entry : Entry => entry.analyzer.name == analyzer.name) =
      fun entry => decide (entry.analyzer = analyzer) := by
    funext entry
    rw [Bool.eq_iff_iff, beq_iff_eq, decide_eq_true_iff, Analyzer.name_injective.eq_iff]
  rw [count, findingsOf, own]

/-- Each finding is counted for its analyzer and for no other. -/
theorem findings_length (report : Report) :
    (report.findingsOf .linter).length + (report.findingsOf .sniffer).length +
      (report.findingsOf .messDetector).length = report.findings.length := by
  unfold findingsOf findings
  induction report.entries with
  | nil => rfl
  | cons entry rest ih =>
      rcases entry with ⟨analyzer, found⟩
      cases analyzer <;>
        simp only [List.filter_cons, List.flatMap_cons, List.length_append, ← ih, reduceCtorEq,
          decide_true, decide_false, if_true, Bool.false_eq_true, if_false] <;> omega

end Report

namespace FileReport

variable (file : FileReport) (color : Bool)

theorem human_lines_told :
    file.humanLines color =
      file.report.told.map fun told => file.findingLine color told.1 told.2 := by
  simp [humanLines, Report.told, List.map_flatMap, Function.comp_def]

theorem human_lines_length : (file.humanLines color).length = file.report.findings.length := by
  rw [human_lines_told, ← Report.told_findings, List.length_map, List.length_map]

end FileReport

/-! ## What is printed -/

/-- The line of a finding: the sign and the name of its analyzer, the place and the message. -/
def FindingLine (color : Bool) (label : String) (told : Analyzer × Finding) (line : String) :
    Prop :=
  ∃ sign tag place, Sign color told.1.marker sign ∧
    Emphasis ("⟦" ++ told.1.name ++ "⟧") color tag ∧
    Emphasis (label ++ ":" ++ toString told.2.line) color place ∧
    line = sign ++ " " ++ tag ++ " " ++ place ++ " — " ++ told.2.message

/-- The block of a file: a line for each finding, and the gutter behind them. -/
structure FileBlock (color : Bool) (file : FileReport) (block : String) : Prop where
  lines : List.Forall₂ (FindingLine color file.label) file.report.told (file.humanLines color)
  text : block = String.join ((file.humanLines color).map (· ++ "\n")) ++ file.gutter.getD ""

theorem file_block (color : Bool) (file : FileReport) :
    FileBlock color file (file.block color) where
  lines := by
    rw [file.human_lines_told, List.forall₂_map_right_iff, List.forall₂_same]
    intro told _
    exact ⟨_, _, _, sign_glyph .., emphasis_styled .., emphasis_styled .., rfl⟩
  text := rfl

/-- The findings of an analyzer in some files, counted. -/
def findingCount (files : List FileReport) (analyzer : Analyzer) : Nat :=
  (files.map fun file => (file.report.findingsOf analyzer).length).sum

/-- The line about some files: the findings of each analyzer and the files, counted. -/
def SummaryLine (color : Bool) (files : List FileReport) (line : String) : Prop :=
  Emphasis ("— Summary — linter=" ++ toString (findingCount files .linter) ++ " sniffer=" ++
    toString (findingCount files .sniffer) ++ " mess_detector=" ++
    toString (findingCount files .messDetector) ++ " files=" ++ toString files.length) color line

namespace Summary

theorem total_of_analyzer (files : List FileReport) (analyzer : Analyzer) :
    (ofReports files).totals.get analyzer = findingCount files analyzer := by
  have counted : (ofReports files).totals.get analyzer =
      files.foldl (fun total file => total + file.report.count analyzer.name) 0 := by
    cases analyzer <;> rfl
  rw [counted, findingCount, List.sum_eq_foldl, List.foldl_map]
  simp only [Report.count_name]

theorem total_counts (files : List FileReport) :
    (ofReports files).total = findingCount files .linter + findingCount files .sniffer +
      findingCount files .messDetector := by
  rw [← total_of_analyzer, ← total_of_analyzer, ← total_of_analyzer]
  rfl

theorem summary_line (files : List FileReport) (color : Bool) :
    SummaryLine color files (styled color bold (ofReports files).text) := by
  unfold SummaryLine
  rw [← total_of_analyzer, ← total_of_analyzer, ← total_of_analyzer]
  exact emphasis_styled ..

/-- All totals together count the lines of all files. -/
theorem total_lines (files : List FileReport) (color : Bool) :
    (ofReports files).total = (files.flatMap (·.humanLines color)).length := by
  rw [total_counts]
  unfold findingCount
  induction files with
  | nil => rfl
  | cons file rest ih =>
      have own := file.report.findings_length
      rw [List.flatMap_cons, List.length_append, FileReport.human_lines_length, ← ih, ← own]
      simp only [List.map_cons, List.sum_cons]
      omega

end Summary

end Checkup
