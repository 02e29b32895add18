import Checkup.Report
import Mathlib.Data.List.Basic

/-!
# Reports in step

The messages, the walk by position and the index by line are kept apart from the findings. A push
keeps all of them in step, so a report that grew by pushes tells the same findings in each way.

A row is looked up by the line behind it. Rows are words, so the last of them has no line behind it,
and the lookup goes on at line zero.
-/

namespace Checkup

open Finding

/-- The last finding on a line. -/
def lastOn? (findings : List Finding) (line : Nat) : Option Finding :=
  findings.reverse.find? fun finding => finding.line == line

theorem last_on_nil (line : Nat) : lastOn? [] line = none := rfl

theorem last_on_append (earlier later : List Finding) (line : Nat) :
    lastOn? (earlier ++ later) line = (lastOn? later line).or (lastOn? earlier line) := by
  simp only [lastOn?, List.reverse_append, List.find?_append]

theorem last_on_none_iff (findings : List Finding) (line : Nat) :
    lastOn? findings line = none ↔ ∀ finding ∈ findings, finding.line ≠ line := by
  simp [lastOn?]

/-- A finding is the last one on its line when none after it is on that line. -/
theorem last_on_of_split (before after : List Finding) (finding : Finding)
    (gone : ∀ later ∈ after, later.line ≠ finding.line) :
    lastOn? (before ++ finding :: after) finding.line = some finding := by
  have none_after : lastOn? after finding.line = none := (last_on_none_iff _ _).2 gone
  rw [last_on_append, ← List.singleton_append, last_on_append, none_after]
  simp [lastOn?]

namespace Report

theorem index_findings_get (index : Std.TreeMap Nat String) (findings : List Finding)
    (line : Nat) :
    (indexFindings index findings)[line]? =
      ((lastOn? findings line).map (·.message)).or index[line]? := by
  induction findings generalizing index with
  | nil => rfl
  | cons finding rest ih =>
      have split := last_on_append [finding] rest line
      rw [List.singleton_append] at split
      have unfolded : indexFindings index (finding :: rest) =
          indexFindings (index.insert finding.line finding.message) rest := rfl
      rw [unfolded, ih, split]
      by_cases same : finding.line = line
      · subst same
        cases lastOn? rest finding.line <;> simp [lastOn?]
      · have other : compare finding.line line ≠ .eq := by
          simpa using same
        cases lastOn? rest line <;> simp [lastOn?, same, Std.TreeMap.getElem?_insert, other]

/-- The invariant of a growing report. -/
structure Paired (report : Report) : Prop where
  messages : report.messages = report.findings.map display
  lineIndex : ∀ line,
    report.lineIndex[line]? = (lastOn? report.findings line).map (·.message)

theorem paired_empty (event : Event) : (empty event).Paired where
  messages := rfl
  lineIndex line := by simp [empty, findings, last_on_nil]

theorem findings_push (report : Report) (entry : Entry) :
    (report.push entry).findings = report.findings ++ entry.findings := by
  simp [findings, push]

theorem paired_push {report : Report} (paired : report.Paired) (entry : Entry) :
    (report.push entry).Paired where
  messages := by
    rw [findings_push, List.map_append, ← paired.messages]
    rfl
  lineIndex line := by
    have indexed := index_findings_get report.lineIndex entry.findings line
    rw [findings_push, last_on_append, Option.map_or, ← paired.lineIndex]
    exact indexed

theorem paired_foldl_push {report : Report} (paired : report.Paired) (entries : List Entry) :
    (entries.foldl push report).Paired := by
  induction entries generalizing report with
  | nil => exact paired
  | cons entry entries ih =>
      rw [List.foldl_cons]
      exact ih (paired_push paired entry)

theorem paired_of_entries (event : Event) (entries : List Entry) :
    (ofEntries event entries).Paired :=
  paired_foldl_push (paired_empty event) entries

theorem entries_foldl_push (report : Report) (entries : List Entry) :
    (entries.foldl push report).entries = report.entries ++ entries := by
  induction entries generalizing report with
  | nil => simp
  | cons entry entries ih =>
      rw [List.foldl_cons, ih]
      simp [push]

theorem entries_of_entries (event : Event) (entries : List Entry) :
    (ofEntries event entries).entries = entries :=
  entries_foldl_push (empty event) entries

theorem event_of_entries (event : Event) (entries : List Entry) :
    (ofEntries event entries).event = event := by
  rw [ofEntries]
  generalize initial : empty event = report
  have started : report.event = event := by rw [← initial]; rfl
  clear initial
  induction entries generalizing report with
  | nil => exact started
  | cons entry rest ih => exact ih (report.push entry) started

/-- The four ways to read a report tell the same findings: the messages and the walk by position
go through them in order, and a line leads to the message of the last finding on it. -/
structure InStep (report : Report) : Prop where
  messages_length : report.messages.length = report.findings.length
  message_at : ∀ (index : Nat) (finding : Finding), report.findings[index]? = some finding →
    report.messages[index]? = some finding.display
  finding_at : ∀ index (inside : index < report.findings.length),
    report.finding? index = some report.findings[index]
  finding_beyond : ∀ index, report.findings.length ≤ index → report.finding? index = none
  indexed_lines : ∀ line, line ∈ report.lineIndex ↔
    ∃ finding ∈ report.findings, finding.line = line
  last_message : ∀ before (finding : Finding) after, report.findings = before ++ finding :: after →
    (∀ later ∈ after, later.line ≠ finding.line) →
      report.lineIndex[finding.line]? = some finding.message

namespace Paired

theorem mem_line_index_iff {report : Report} (paired : report.Paired) (line : Nat) :
    line ∈ report.lineIndex ↔ ∃ finding ∈ report.findings, finding.line = line := by
  rw [← Std.TreeMap.isSome_getElem?_iff_mem, paired.lineIndex, Option.isSome_map,
    ← not_iff_not, Bool.not_eq_true, Option.isSome_eq_false_iff, Option.isNone_iff_eq_none,
    last_on_none_iff]
  simp

theorem in_step {report : Report} (paired : report.Paired) : report.InStep where
  messages_length := by rw [paired.messages, List.length_map]
  message_at index finding present := by
    rw [paired.messages, List.getElem?_map, present]
    rfl
  finding_at index inside := List.getElem?_eq_getElem inside
  finding_beyond index outside := List.getElem?_eq_none outside
  indexed_lines := paired.mem_line_index_iff
  last_message before finding after split gone := by
    rw [paired.lineIndex, split, last_on_of_split before after finding gone]
    rfl

end Paired

/-! ## The status of a row -/

/-- The message of the last finding on a line. -/
def statusOn? (report : Report) (line : Nat) : Option String :=
  (lastOn? report.findings line).map (·.message)

theorem status_on_none_iff (report : Report) (line : Nat) :
    report.statusOn? line = none ↔ ∀ finding ∈ report.findings, finding.line ≠ line := by
  rw [statusOn?, Option.map_eq_none_iff, last_on_none_iff]

theorem Paired.status {report : Report} (paired : report.Paired) (row : Nat) :
    report.statusForRow? row = report.statusOn? (nextWord row) :=
  paired.lineIndex (nextWord row)

theorem next_word_inside {row : Nat} (inside : row + 1 < wordLimit) : nextWord row = row + 1 :=
  Nat.mod_eq_of_lt inside

theorem next_word_last {row : Nat} (last : row + 1 = wordLimit) : nextWord row = 0 := by
  rw [nextWord, last, Nat.mod_self]

/-- The status of a row is the message of the last finding on the line behind it, except for the
last row of all: there is no line behind that one, and findings on line zero are told instead. -/
theorem status_exact_iff (event : Event) (entries : List Entry) (row : Nat)
    (isRow : row < wordLimit)
    (areLines : ∀ entry ∈ entries, ∀ finding ∈ entry.findings, finding.line < wordLimit) :
    let report := ofEntries event entries
    (report.statusForRow? row = report.statusOn? (row + 1) ↔
      (row + 1 = wordLimit → ∀ finding ∈ report.findings, finding.line ≠ 0)) ∧
    (row + 1 = wordLimit →
      report.statusOn? (row + 1) = none ∧ report.statusForRow? row = report.statusOn? 0) := by
  intro report
  have paired : report.Paired := paired_of_entries event entries
  have told := paired.status row
  by_cases last : row + 1 = wordLimit
  · have nothing : report.statusOn? (row + 1) = none := by
      rw [status_on_none_iff, last]
      intro finding member
      rw [findings, entries_of_entries, List.mem_flatMap] at member
      obtain ⟨entry, inEntries, inEntry⟩ := member
      exact Nat.ne_of_lt (areLines entry inEntries finding inEntry)
    rw [next_word_last last] at told
    rw [told, nothing, status_on_none_iff]
    exact ⟨⟨fun unmarked _ => unmarked, fun unmarked => unmarked last⟩, fun _ => ⟨rfl, rfl⟩⟩
  · rw [told, next_word_inside (by omega)]
    exact ⟨iff_of_true rfl fun behind => absurd behind last, fun behind => absurd behind last⟩

/-- A report with findings on both ends of the numbers that a line can have. -/
def farApart : List Entry :=
  [⟨.sniffer, [⟨⟨0, "before all rows"⟩, 0⟩, ⟨⟨wordLimit - 1, "far behind"⟩, 0⟩]⟩]

theorem far_apart_lines :
    ∀ entry ∈ farApart, ∀ finding ∈ entry.findings, finding.line < wordLimit := by
  decide

theorem last_line_told :
    wordLimit - 2 < wordLimit ∧
      (∀ entry ∈ farApart, ∀ finding ∈ entry.findings, finding.line < wordLimit) ∧
      (ofEntries .explicit farApart).statusForRow? (wordLimit - 2) = some "far behind" := by
  have isRow : wordLimit - 2 < wordLimit := by decide
  have inside : wordLimit - 2 + 1 ≠ wordLimit := by decide
  refine ⟨isRow, far_apart_lines, ?_⟩
  rw [(status_exact_iff .explicit farApart (wordLimit - 2) isRow far_apart_lines).1.2
    fun last => absurd last inside]
  rfl

/-- No finding is on the line behind the last row, and still one is told. -/
theorem row_behind_all_lines_told :
    wordLimit - 1 < wordLimit ∧
      (∀ entry ∈ farApart, ∀ finding ∈ entry.findings, finding.line < wordLimit) ∧
      (ofEntries .explicit farApart).statusOn? (wordLimit - 1 + 1) = none ∧
      (ofEntries .explicit farApart).statusForRow? (wordLimit - 1) = some "before all rows" := by
  refine ⟨by decide, far_apart_lines, by rfl, ?_⟩
  rw [(paired_of_entries _ _).status]
  rfl

end Report

end Checkup
