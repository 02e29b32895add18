import Checkup.Proofs.Encoding.LineFeed
import Checkup.Proofs.Isolation
import Checkup.Proofs.Summary
import Checkup.Proofs.Terminal.LineFeeds
import Checkup.Proofs.Text.BrokenLine
import Checkup.Proofs.Text.Separated
import Checkup.Proofs.ToolOutput.Checkstyle
import Checkup.Proofs.ToolOutput.LinterLine
import Checkup.Proofs.ToolOutput.Sifting
import Checkup.Proofs.ToolOutput.TextRow

/-!
# One line for each finding

A finding is printed on one line unless its message has a line feed. The fixed patterns never match
one, and no decoder makes one, so with these patterns it can only come from a reference in the
message. Printed for a reader, reports without gutters have as many lines as findings, and one for
the summary, exactly if no reference and no pattern of one's own brings such a message.
-/

namespace Checkup

open Message (ReadsAs)
open Text.Entity (BringsFeed feed_unescaped_iff)
open ToolOutput (RawViolation WritesLine readViolation rawViolations)

variable {State : Type}

/-! ## The matches of a run -/

namespace Analyzer

variable (host : Host State) (settings : Settings) (target : Target)

/-- The state in which a run asks an analyzer. -/
def reachedIn (state : State) : Analyzer → State
  | .linter => state
  | .sniffer => ((linter.collect host settings target).run state).2
  | .messDetector =>
    ((sniffer.collect host settings target).run ((linter.collect host settings target).run state).2).2

/-- The matches in what the tool of an analyzer prints during a run, if it is run at all. -/
def matchesIn (state : State) (analyzer : Analyzer) : List RawViolation :=
  match analyzer.question? settings target with
  | none => []
  | some vector =>
    rawViolations settings (host.run vector (reachedIn host settings target state analyzer)).1
      analyzer

/-- The violations that an analyzer reads are those of its matches that can be read. -/
theorem violations_of_matches (state : State) (analyzer : Analyzer) :
    ((analyzer.violations host settings target).run
        (reachedIn host settings target state analyzer)).1 =
      ((analyzer.matchesIn host settings target state).map
        (readViolation target.fallbackEncoding)).filterMap Except.toOption := by
  rw [violations_run, matchesIn]
  cases analyzer.question? settings target with
  | none => rfl
  | some vector => rfl

end Analyzer

theorem collected_findings (host : Host State) (settings : Settings) (target : Target)
    (event : Event) (state : State) :
    ((collect host settings target event).run state).1.findings =
      Analyzer.all.flatMap fun analyzer =>
        (((Analyzer.matchesIn host settings target state analyzer).map
          (readViolation target.fallbackEncoding)).filterMap Except.toOption).map
            (Analyzer.place host) := by
  have own (analyzer : Analyzer) (reached : State) :
      ((analyzer.collect host settings target).run reached).1.findings =
        ((analyzer.violations host settings target).run reached).1.map (Analyzer.place host) := by
    rw [Analyzer.collect_run]
  simp only [← Analyzer.violations_of_matches]
  rw [collect_run, Report.findings, Report.entries_of_entries, Analyzer.all]
  simp only [Analyzer.collect_each_cons_run, List.flatMap_cons, own]
  rfl

/-! ## Messages with a line feed -/

namespace ToolOutput

open Pattern

/-- A match that is reported with a line feed in its message: the text of the message has one, or a
reference in that text brings one. -/
structure BreaksLine (label : String) (raw : RawViolation) : Prop where
  line : ∃ line, WritesLine raw.line line
  message : ∃ text, ReadsAs label raw.message text ∧ ('\n' ∈ text ∨ BringsFeed text)

theorem breaks_line_iff {label : String} {raw : RawViolation} :
    BreaksLine label raw ↔
      ∃ violation, readViolation label raw = .ok violation ∧ '\n' ∈ violation.message.toList := by
  constructor
  · rintro ⟨⟨line, writes⟩, text, reads, feed⟩
    refine ⟨⟨line, String.ofList (Text.Entity.unescapeChars text)⟩,
      tells_iff.2 ⟨writes, text, reads, rfl⟩, ?_⟩
    rw [String.toList_ofList]
    exact (feed_unescaped_iff text).2 feed
  · rintro ⟨violation, read, member⟩
    obtain ⟨writes, text, reads, message⟩ := tells_iff.1 read
    rw [message, String.toList_ofList] at member
    exact ⟨⟨_, writes⟩, text, reads, (feed_unescaped_iff text).1 member⟩

/-- No decoder makes a line feed. -/
theorem feed_of_reads {label : String} {bytes : Bytes} {text : List Char}
    (reads : ReadsAs label bytes text) (member : '\n' ∈ text) : 10 ∈ bytes := by
  cases reads with
  | utf8 encoded =>
      exact Encoding.utf8_feeds bytes text (Text.Utf8.decode_some_iff.2 encoded) member
  | fallback foreign named decoded => exact Encoding.decode_feeds _ bytes text decoded member

theorem record_on_line {raw : RawViolation} {output : Bytes}
    (found : raw ∈ every checkstyleRecord output) : 10 ∉ raw.message := by
  rw [Checkstyle.every_record] at found
  obtain ⟨text, clean, read⟩ := read_on_line found
  obtain ⟨column, severity, rest, split⟩ := Checkstyle.record_sound read
  rw [split] at clean
  exact fun feed => clean (by simp only [List.mem_append, feed, true_or, or_true])

theorem row_on_line {raw : RawViolation} {output : Bytes} (found : raw ∈ every textRow output) :
    10 ∉ raw.message := by
  rw [TextRow.every_row] at found
  obtain ⟨text, clean, read⟩ := read_on_line found
  obtain ⟨-, blanks, -, split⟩ := TextRow.row_sound read
  rw [split] at clean
  exact fun feed => clean (by simp only [List.mem_cons, List.mem_append, feed, or_true])

theorem location_on_line {raw : RawViolation} {output : Bytes}
    (found : raw ∈ linterViolations Settings.defaultLinterPattern output) : 10 ∉ raw.message := by
  obtain ⟨told, tells, same⟩ := (LinterLine.location_told_iff output _).1 rfl
  rw [same, Option.mem_toList] at found
  subst found
  cases tells with
  | @first _ _ line _ split _ told =>
      cases told with
      | last _ located =>
          have piece : line ∈ output.splitOn 10 := by
            rw [split]
            exact List.mem_append_right _ List.mem_cons_self
          rw [located.1]
          exact fun feed => Text.piece_whole piece (List.mem_of_mem_take feed)

/-- The patterns that nobody chose stay on a line. -/
theorem match_on_line {settings : Settings} {output : Bytes} {analyzer : Analyzer}
    {raw : RawViolation}
    (fixed : analyzer = .linter → settings.linterPattern = Settings.defaultLinterPattern)
    (found : raw ∈ rawViolations settings output analyzer) : 10 ∉ raw.message := by
  cases analyzer with
  | linter =>
      rw [rawViolations, fixed rfl] at found
      exact location_on_line found
  | sniffer => exact record_on_line found
  | messDetector => exact row_on_line found

/-- The one way left for a line feed to get into a message when the pattern stays on a line. -/
theorem breaks_line_by_reference {label : String} {raw : RawViolation} (onLine : 10 ∉ raw.message) :
    BreaksLine label raw ↔
      (∃ line, WritesLine raw.line line) ∧
        ∃ text, ReadsAs label raw.message text ∧ BringsFeed text := by
  constructor
  · rintro ⟨writes, text, reads, feed⟩
    exact ⟨writes, text, reads, feed.resolve_left (mt (feed_of_reads reads) onLine)⟩
  · rintro ⟨writes, text, reads, feed⟩
    exact ⟨writes, text, reads, .inr feed⟩

end ToolOutput

open ToolOutput (BreaksLine breaks_line_iff breaks_line_by_reference match_on_line)

/-- A message of a run has a line feed if a match of the run breaks its line. -/
theorem messages_whole_iff (host : Host State) (settings : Settings) (target : Target)
    (event : Event) (state : State) :
    (∀ finding ∈ ((collect host settings target event).run state).1.findings,
        '\n' ∉ finding.message.toList) ↔
      ∀ analyzer, ∀ raw ∈ Analyzer.matchesIn host settings target state analyzer,
        ¬ BreaksLine target.fallbackEncoding raw := by
  have everyone (analyzer : Analyzer) : analyzer ∈ Analyzer.all := by cases analyzer <;> decide
  rw [collected_findings]
  constructor
  · intro whole analyzer raw found broken
    obtain ⟨violation, read, feed⟩ := breaks_line_iff.1 broken
    refine whole (Analyzer.place host violation) ?_ feed
    refine List.mem_flatMap.2 ⟨analyzer, everyone analyzer, List.mem_map_of_mem ?_⟩
    exact List.mem_filterMap.2 ⟨_, List.mem_map_of_mem found, by rw [read]; rfl⟩
  · intro unbroken finding member feed
    obtain ⟨analyzer, -, inside⟩ := List.mem_flatMap.1 member
    obtain ⟨violation, kept, rfl⟩ := List.mem_map.1 inside
    obtain ⟨result, read, same⟩ := List.mem_filterMap.1 kept
    obtain ⟨raw, found, rfl⟩ := List.mem_map.1 read
    refine unbroken analyzer raw found (breaks_line_iff.2 ⟨violation, ?_, feed⟩)
    cases result : readViolation target.fallbackEncoding raw with
    | error dropped =>
        rw [result] at same
        cases same
    | ok other =>
        rw [result] at same
        rw [Option.some.inj same]

/-! ## Printed lines -/

namespace FileReport

variable (file : FileReport) (color : Bool)

theorem line_feeds_finding_line (analyzer : Analyzer) (finding : Finding) :
    lineFeeds (file.findingLine color analyzer finding) =
      lineFeeds file.label + lineFeeds finding.message := by
  have blank : lineFeeds " " = 0 := by decide
  have opened : lineFeeds "⟦" = 0 := by decide
  have closed : lineFeeds "⟧" = 0 := by decide
  have colon : lineFeeds ":" = 0 := by decide
  have dash : lineFeeds " — " = 0 := by decide
  have name : lineFeeds analyzer.name = 0 := by cases analyzer <;> decide
  simp only [findingLine, line_feeds_append, Terminal.line_feeds_glyph, Terminal.line_feeds_bold,
    line_feeds_number, blank, opened, closed, colon, dash, name, Nat.zero_add, Nat.add_zero]

/-- The lines of a file are whole if its messages are. -/
theorem human_lines_whole_iff (named : '\n' ∉ file.label.toList) :
    (∀ line ∈ file.humanLines color, '\n' ∉ line.toList) ↔
      ∀ finding ∈ file.report.findings, '\n' ∉ finding.message.toList := by
  have label : lineFeeds file.label = 0 := line_feeds_zero_iff.2 named
  rw [human_lines_told, ← Report.told_findings, List.forall_mem_map, List.forall_mem_map]
  simp only [← line_feeds_zero_iff, line_feeds_finding_line, label, Nat.zero_add]

/-- A file without a gutter prints its lines and nothing else. -/
theorem line_feeds_block (bare : file.gutter = none) :
    lineFeeds (file.block color) =
      ((file.humanLines color).map fun line => lineFeeds line + 1).sum := by
  have nothing : lineFeeds "" = 0 := by decide
  have ended : lineFeeds "\n" = 1 := by decide
  rw [block, bare, Option.getD_none, line_feeds_append, nothing, line_feeds_join, List.map_map]
  simp only [Function.comp_def, line_feeds_append, ended, Nat.add_zero]

end FileReport

theorem line_feeds_summary (summary : Summary) : lineFeeds summary.text = 0 := by
  -- The keys are taken for any texts: to look for an append in a spelled-out text takes long.
  have numbered (first second third fourth : String) (one two three four : Nat) :
      lineFeeds (first ++ toString one ++ second ++ toString two ++ third ++ toString three ++
        fourth ++ toString four) =
          lineFeeds first + lineFeeds second + lineFeeds third + lineFeeds fourth := by
    simp only [line_feeds_append, line_feeds_number, Nat.add_zero]
  have linter : lineFeeds "— Summary — linter=" = 0 := by
    apply line_feeds_of_chars
    decide
  have sniffer : lineFeeds " sniffer=" = 0 := by
    apply line_feeds_of_chars
    decide
  have messDetector : lineFeeds " mess_detector=" = 0 := by
    apply line_feeds_of_chars
    decide
  have files : lineFeeds " files=" = 0 := by
    apply line_feeds_of_chars
    decide
  unfold Summary.text
  refine (numbered ..).trans ?_
  simp only [linter, sniffer, messDetector, files, Nat.add_zero]

theorem line_feeds_human_text {files : List FileReport} (bare : ∀ file ∈ files, file.gutter = none)
    (color : Bool) :
    lineFeeds (humanText files color) =
      ((files.flatMap (·.humanLines color)).map fun line => lineFeeds line + 1).sum + 1 := by
  have ended : lineFeeds "\n" = 1 := by decide
  rw [humanText, line_feeds_append, line_feeds_append, Terminal.line_feeds_bold,
    line_feeds_summary, ended, line_feeds_join, List.map_map, Nat.add_zero]
  congr 1
  induction files with
  | nil => rfl
  | cons file rest ih =>
      obtain ⟨own, later⟩ := List.forall_mem_cons.1 bare
      rw [List.map_cons, List.sum_cons, ih later, List.flatMap_cons, List.map_append,
        List.sum_append]
      exact congrArg (· + _) (file.line_feeds_block color own)

/-- Texts that are printed one after the other take one line each exactly if they are whole. -/
theorem one_line_each_iff (lines : List String) :
    (lines.map fun line => lineFeeds line + 1).sum = lines.length ↔
      ∀ line ∈ lines, '\n' ∉ line.toList := by
  have atLeast (lines : List String) :
      lines.length ≤ (lines.map fun line => lineFeeds line + 1).sum := by
    induction lines with
    | nil => exact Nat.le_refl _
    | cons line rest ih =>
        rw [List.map_cons, List.sum_cons, List.length_cons]
        omega
  induction lines with
  | nil => simp
  | cons line rest ih =>
      have others := atLeast rest
      rw [List.forall_mem_cons, ← line_feeds_zero_iff, List.map_cons, List.sum_cons,
        List.length_cons]
      constructor
      · intro counted
        exact ⟨by omega, ih.1 (by omega)⟩
      · rintro ⟨own, whole⟩
        have counted := ih.2 whole
        omega

/-- For a reader, files without gutters take one line for each finding and one for the summary
exactly if all their lines are whole. -/
theorem printed_lines_iff {mode : String} (human : mode ≠ "json") {files : List FileReport}
    (bare : ∀ file ∈ files, file.gutter = none) (color : Bool) :
    lineFeeds (printedText mode files color) =
        (files.map fun file => file.report.findings.length).sum + 1 ↔
      ∀ file ∈ files, ∀ line ∈ file.humanLines color, '\n' ∉ line.toList := by
  have counted : (files.map fun file => file.report.findings.length).sum =
      (files.flatMap (·.humanLines color)).length := by
    rw [List.length_flatMap]
    simp only [FileReport.human_lines_length]
  rw [printedText, if_neg human, line_feeds_human_text bare, counted, Nat.add_right_cancel_iff,
    one_line_each_iff, List.forall_mem_flatMap]

/-- Every line of a collected report is whole exactly if no match that is reported has a line feed
in its message, be it in its text or brought by a reference. Only a linter pattern that somebody
chose can match a line feed; for all others just the references are left. And exactly if their
lines are whole, reports without gutters are printed in one line for each finding and one more. -/
theorem finding_lines_whole_iff (host : Host State) (settings : Settings) (target : Target)
    (event : Event) (state : State) (label : String) (named : '\n' ∉ label.toList)
    (gutter : Option String) (color : Bool) :
    let file : FileReport :=
      ⟨label, ((collect host settings target event).run state).1, gutter⟩
    let found := Analyzer.matchesIn host settings target state
    ((∀ line ∈ file.humanLines color, '\n' ∉ line.toList) ↔
      ∀ analyzer, ∀ raw ∈ found analyzer, ¬ BreaksLine target.fallbackEncoding raw) ∧
    (∀ analyzer, (analyzer = .linter → settings.linterPattern = Settings.defaultLinterPattern) →
      ∀ raw ∈ found analyzer, BreaksLine target.fallbackEncoding raw ↔
        (∃ line, WritesLine raw.line line) ∧
          ∃ text, ReadsAs target.fallbackEncoding raw.message text ∧ BringsFeed text) ∧
    ∀ mode ≠ "json", ∀ files : List FileReport, (∀ file ∈ files, file.gutter = none) →
      (lineFeeds (printedText mode files color) =
          (files.map fun file => file.report.findings.length).sum + 1 ↔
        ∀ file ∈ files, ∀ line ∈ file.humanLines color, '\n' ∉ line.toList) := by
  intro file found
  refine ⟨?whole, ?references, fun mode human files bare => printed_lines_iff human bare color⟩
  case whole =>
    exact (file.human_lines_whole_iff color named).trans
      (messages_whole_iff host settings target event state)
  case references =>
    intro analyzer fixed raw member
    apply breaks_line_by_reference
    dsimp only [found, Analyzer.matchesIn] at member
    split at member
    · cases member
    · exact match_on_line fixed member

/-- The sniffer prints a record for the first line of a file. The other tools are silent. -/
def sniffedRecord (message : String) (vector : List String) : Bytes :=
  if vector.head? = some "phpcs" then
    Bytes.ofString ("line=\"1\" column=\"1\" severity=\"error\" message=\"" ++ message ++
      "\" source=\"S\"")
  else []

def recordBench (message : String) : Bench Terminal.Screen :=
  .beside (Terminal.Page.ofBytes "a.php" [] false false).surface (sniffedRecord message)

def recordTarget : Target := .ofPath (.ofString "a.php") Settings.defaultFallback

/-- A file about which the sniffer prints a record, as it is shown with the default settings. -/
def recordFile (message : String) : FileReport where
  label := "a.php"
  report := ((collect (recordBench message).host Settings.default recordTarget .explicit).run {}).1
  gutter := none

/-- The record is all that is found. -/
theorem record_told {message : String} {line : Nat} {found : String}
    (read : ToolOutput.parse Settings.default (sniffedRecord message ["phpcs"])
      Settings.defaultFallback .sniffer = [⟨line, found⟩]) :
    (recordFile message).report.told =
      [(.sniffer, ⟨⟨line, found⟩, (recordBench message).host.lineToAnchor line⟩)] := by
  have silent :
      Analyzer.linter.reads Settings.default (sniffedRecord message) recordTarget = [] := by
    have printed : Analyzer.linter.reads Settings.default (sniffedRecord message) recordTarget =
        ToolOutput.parse Settings.default [] Settings.defaultFallback .linter := rfl
    rw [printed, ToolOutput.LinterLine.parse_location rfl]
    decide +kernel
  have sniffed : Analyzer.sniffer.reads Settings.default (sniffedRecord message) recordTarget =
      [⟨line, found⟩] := read
  have disabled : Analyzer.messDetector.reads Settings.default (sniffedRecord message)
      recordTarget = [] := rfl
  have report : (recordFile message).report =
      (recordBench message).report Settings.default recordTarget .explicit :=
    collect_on_bench (recordBench message) Settings.default recordTarget .explicit {}
  have tools : (recordBench message).tools = sniffedRecord message := rfl
  rw [report, Report.told, Bench.report_entries, Analyzer.all]
  simp only [Bench.entry, tools, silent, sniffed, disabled, List.map_cons, List.map_nil,
    List.flatMap_cons, List.flatMap_nil, List.append_nil, List.nil_append]
  rfl

theorem plain_record_read :
    ToolOutput.parse Settings.default (sniffedRecord "m" ["phpcs"]) Settings.defaultFallback
      .sniffer = [⟨1, "m"⟩] := by
  rw [ToolOutput.Checkstyle.parse_records]
  decide +kernel

theorem plain_record_on_one_line :
    '\n' ∉ "a.php".toList ∧
      (∀ line ∈ (recordFile "m").humanLines false, '\n' ∉ line.toList) ∧
      (∀ analyzer, ∀ raw ∈ Analyzer.matchesIn (recordBench "m").host Settings.default recordTarget
        {} analyzer, ¬ BreaksLine Settings.defaultFallback raw) ∧
      lineFeeds (printedText "human" [recordFile "m"] false) = 2 := by
  have named : '\n' ∉ "a.php".toList := by decide
  obtain ⟨whole, -, printed⟩ := finding_lines_whole_iff (recordBench "m").host Settings.default
    recordTarget .explicit {} "a.php" named none false
  have told := record_told plain_record_read
  have lines : ∀ line ∈ (recordFile "m").humanLines false, '\n' ∉ line.toList := by
    rw [FileReport.human_lines_told, told]
    decide +kernel
  have single : (recordFile "m").report.findings.length = 1 := by
    rw [← Report.told_findings, told]
    rfl
  refine ⟨named, lines, whole.1 lines, ?_⟩
  have counted := (printed "human" (by decide) [recordFile "m"]
    (List.forall_mem_singleton.2 rfl)).2 (List.forall_mem_singleton.2 lines)
  rw [counted, List.map_singleton, List.sum_singleton, single]

/-- A line feed that is written as a reference breaks the line of its finding. -/
theorem reference_breaks_finding_line :
    '\n' ∉ (recordFile "a&#10;b").label.toList ∧
      (recordFile "a&#10;b").report.findings.length = 1 ∧
      (recordFile "a&#10;b").humanLines false = ["● ⟦Sniffer⟧ a.php:1 — a\nb"] ∧
      lineFeeds (printedText "human" [recordFile "a&#10;b"] false) = 3 := by
  have read : ToolOutput.parse Settings.default (sniffedRecord "a&#10;b" ["phpcs"])
      Settings.defaultFallback .sniffer = [⟨1, "a\nb"⟩] := by
    rw [ToolOutput.Checkstyle.parse_records]
    decide +kernel
  have told := record_told read
  have lines : (recordFile "a&#10;b").humanLines false = ["● ⟦Sniffer⟧ a.php:1 — a\nb"] := by
    rw [FileReport.human_lines_told, told]
    decide +kernel
  have named : '\n' ∉ "a.php".toList := by decide
  refine ⟨named, ?_, lines, ?_⟩
  · rw [← Report.told_findings, told]
    rfl
  · have human : ("human" : String) ≠ "json" := by decide
    have bare : ∀ file ∈ [recordFile "a&#10;b"], file.gutter = none :=
      List.forall_mem_singleton.2 rfl
    rw [printedText, if_neg human, line_feeds_human_text bare, List.flatMap_singleton, lines]
    decide +kernel

end Checkup
