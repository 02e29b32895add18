import Checkup.Program
import Checkup.Proofs.CheckerHistory
import Checkup.Proofs.Isolation
import Checkup.Proofs.Settings.Root
import Checkup.Proofs.Summary
import Checkup.Proofs.Terminal.Marks
import Checkup.Proofs.ToolOutput.Checkstyle
import Checkup.Proofs.ToolOutput.LinterLine

/-!
# Reports file by file

The program checks its files one after the other, and they share their sessions. Nothing of what a
file is told about comes from there: its report follows from its content, the settings and what
the tools print about it. So the output of a run is put together from what is known of each file
by itself.
-/

namespace Checkup

open Terminal (Marks Page Prompt Screen)

/-! ## One file by itself -/

/-- What an analyzer finds in a file once its tool has printed something about it. -/
def Analyzer.entryOf (analyzer : Analyzer) (settings : Settings) (page : Page) (output : Bytes) :
    Entry where
  analyzer
  findings :=
    if (settings.tools.get analyzer).enabled then
      (ToolOutput.parse settings output settings.fallbackEncoding analyzer).map fun violation =>
        { violation with anchor := page.lineToAnchor violation.line }
    else []

/-- The report on a file, given its content and what each tool prints about it. -/
def FileReport.ofOutputs (settings : Settings) (event : Event) (color : Bool) (label : String)
    (content : Bytes) (outputs : Analyzer → Bytes) : FileReport :=
  let page := Page.ofBytes label content false color
  let entries := Analyzer.all.map fun analyzer =>
    analyzer.entryOf settings page (outputs analyzer)
  { label
    report := .ofEntries event entries
    gutter :=
      if settings.display.gutterMarks then
        some (page.gutter (entries.foldl (Marks.renew true) []))
      else none }

namespace Surroundings

variable (surroundings : Surroundings)

/-- What a tool prints; one that cannot be run prints nothing. -/
def printed (vector : List String) : Bytes :=
  match vector with
  | [] => []
  | _ => (surroundings.runTool vector).toOption.getD []

/-- The report on a file of the tree, if it can be read. -/
def fileReport? (settings : Settings) (event : Event) (path : Path) : Option FileReport :=
  (surroundings.tree.read path).toOption.map fun content =>
    .ofOutputs settings event surroundings.color
      (surroundings.tree.workingPath.labelFrom path).display content
      fun analyzer => surroundings.printed (analyzer.invocation settings path)

end Surroundings

namespace Program

variable (surroundings : Surroundings) (settings : Settings) (page : Page) (prompt : Prompt)

theorem run_logged_printed (vector : List String) (screen : Screen) :
    (runLogged surroundings settings vector screen).1 = surroundings.printed vector := by
  unfold runLogged Surroundings.printed
  cases vector with
  | nil => rfl
  | cons program rest =>
      dsimp only
      cases surroundings.runTool (program :: rest) with
      | ok output => rfl
      | error cause => rfl

/-- The tools answer by their arguments alone. -/
def bench : Bench Screen where
  host := host surroundings settings page prompt
  tools := surroundings.printed
  answers := run_logged_printed surroundings settings

/-! ## What a run shows on a page -/

/-- Running a tool changes nothing but the log. -/
theorem run_logged_shown (vector : List String) (screen : Screen) :
    let ran := (runLogged surroundings settings vector screen).2
    ran.marks = screen.marks ∧ ran.output = screen.output := by
  unfold runLogged
  cases vector with
  | nil => exact ⟨rfl, rfl⟩
  | cons program rest =>
      dsimp only
      cases surroundings.runTool (program :: rest) with
      | ok output => exact ⟨rfl, rfl⟩
      | error cause => exact ⟨rfl, rfl⟩

def watchMarks : Watch (host surroundings settings page prompt) Marks where
  view := Screen.marks
  asked _ marks := marks
  cleared owner marks := marks.erase owner
  marked owner anchors marker marks := marks.insert owner anchors marker
  run vector screen := (run_logged_shown surroundings settings vector screen).1
  log _ _ _ := rfl
  clearMarks _ _ := rfl
  addMarks _ _ _ _ := rfl

def watchOutput : Watch (host surroundings settings page prompt) String where
  view := Screen.output
  asked _ output := output
  cleared _ output := output
  marked _ _ _ output := output
  run vector screen := (run_logged_shown surroundings settings vector screen).2
  log _ _ _ := rfl
  clearMarks _ _ := rfl
  addMarks _ _ _ _ := rfl

theorem watch_marks_renewed (target : Target) :
    (watchMarks surroundings settings page prompt).renewed settings target =
      Marks.renew settings.display.gutterMarks := by
  funext marks entry
  have unasked : (watchMarks surroundings settings page prompt).questioned settings target
      entry.analyzer marks = marks := by
    unfold Watch.questioned
    split
    · rfl
    · rfl
  rw [Watch.renewed, unasked]
  rfl

/-- What the user picks from is printed only where nobody can pick. -/
theorem present_list_shown (items : List String) (screen : Screen) :
    let answered := (host surroundings settings page prompt).presentList items screen
    answered.2.marks = screen.marks ∧
      (page.interactive = true → answered.2.output = screen.output) := by
  have listed : (page.presentList items screen prompt).2.marks = screen.marks ∧
      (page.interactive = true →
        (page.presentList items screen prompt).2.output = screen.output) := by
    unfold Page.presentList
    split
    · exact ⟨rfl, fun _ => rfl⟩
    split
    · exact ⟨rfl, fun _ => rfl⟩
    · rename_i unattended
      exact ⟨rfl, fun attended => absurd attended unattended⟩
  dsimp only [host]
  split
  · cases prompt page.question items with
    | ok choice => exact listed
    | error cause => exact listed
  · exact listed

/-- A jump is told on the standard error only. -/
theorem select_shown (report : Report) (picked : Option Nat) (screen : Screen) :
    let selected :=
      ((report.select (host surroundings settings page prompt) settings picked).run screen).2
    selected.marks = screen.marks ∧ selected.output = screen.output := by
  intro selected
  dsimp only [selected]
  rw [Report.select_run]
  cases picked with
  | none => exact ⟨rfl, rfl⟩
  | some index =>
      dsimp only
      cases report.finding? index with
      | none => exact ⟨rfl, rfl⟩
      | some finding =>
          dsimp only
          rw [Report.refresh_status_run]
          split
          · exact ⟨rfl, rfl⟩
          · split
            · exact ⟨rfl, rfl⟩
            · exact ⟨rfl, rfl⟩

theorem present_shown (report : Report) (screen : Screen) :
    let presented :=
      ((report.present (host surroundings settings page prompt) settings).run screen).2
    presented.marks = screen.marks ∧
      (page.interactive = true ∨ settings.display.quickPanel = false →
        presented.output = screen.output) := by
  intro presented
  dsimp only [presented]
  rw [Report.present_run]
  split
  · rename_i shown
    obtain ⟨marks, output⟩ :=
      present_list_shown surroundings settings page prompt report.messages screen
    rw [Report.show_list_run]
    dsimp only
    generalize (host surroundings settings page prompt).presentList report.messages screen =
      answered at *
    obtain ⟨keptMarks, keptOutput⟩ :=
      select_shown surroundings settings page prompt report answered.1 answered.2
    refine ⟨keptMarks.trans marks, fun quiet => keptOutput.trans (output (quiet.resolve_right ?_))⟩
    rw [shown.1]
    exact Bool.noConfusion
  · exact ⟨rfl, fun _ => rfl⟩

/-- The marks on a page after a run from scratch, and the output if the run is quiet. -/
theorem run_shown (target : Target) (event : Event) (sessions : Sessions) :
    let checker : Checker Screen := ⟨settings, host surroundings settings page prompt⟩
    let ran := (checker.run target event).run ⟨sessions, {}⟩
    ran.1 = (bench surroundings settings page prompt).report settings target event ∧
      ran.2.host.marks =
        ran.1.entries.foldl (Marks.renew settings.display.gutterMarks) [] ∧
      (page.interactive = true ∨ settings.display.quickPanel = false →
        ran.2.host.output = "") := by
  have collected :=
    collect_on_bench (bench surroundings settings page prompt) settings target event {}
  have marked := (watchMarks surroundings settings page prompt).collect settings target event {}
  rw [watch_marks_renewed] at marked
  have silent := (watchOutput surroundings settings page prompt).collect_unseen settings target
    (fun _ _ => rfl) (fun _ _ => rfl) (fun _ _ _ _ => rfl) event {}
  intro checker ran
  have split : ran = _ := Checker.run_run checker target event ⟨sessions, {}⟩
  dsimp only [checker] at split
  change ((collect (host surroundings settings page prompt) settings target event).run {}).1 = _
    at collected
  rcases reported : (collect (host surroundings settings page prompt) settings target
    event).run {} with ⟨report, screen⟩
  rw [reported] at split collected marked silent
  have presented := present_shown surroundings settings page prompt report
    ((host surroundings settings page prompt).log .detail
      (target.id ++ ": stored " ++ toString report.messages.length ++ " message(s)") screen)
  rw [split]
  exact ⟨collected, presented.1.trans marked, fun quiet => (presented.2 quiet).trans silent⟩

/-! ## One file of a run -/

def Mode.event (mode : Mode) : Event := if mode.onSave then .onSave else .explicit

theorem entries_on_bench (path : Path) :
    Analyzer.all.map ((bench surroundings settings page prompt).entry settings
        (.ofPath path settings.fallbackEncoding)) =
      Analyzer.all.map fun analyzer => analyzer.entryOf settings page
        (surroundings.printed (analyzer.invocation settings path)) := by
  apply List.map_congr_left
  intro analyzer _
  unfold Bench.entry Analyzer.entryOf Analyzer.reads Analyzer.question?
  cases (settings.tools.get analyzer).enabled with
  | false => rfl
  | true => rfl

/-- A file that is checked is reported on as it would be by itself, whatever the sessions hold, and
a quiet run prints nothing on the way. -/
theorem check_file {mode : Mode} {path : Path}
    (checked : settings.checks (.ofPath path settings.fallbackEncoding) = true)
    (saved : mode.onSave = true → settings.runOnSave = true) (sessions : Sessions) :
    let outcome := (checkFile surroundings settings mode prompt sessions path).1
    outcome.report = surroundings.fileReport? settings mode.event path ∧
      (mode.interactive = true ∨ settings.display.quickPanel = false → outcome.output = "") := by
  intro outcome
  dsimp only [outcome]
  unfold checkFile Surroundings.fileReport?
  dsimp only
  cases surroundings.tree.read path with
  | error cause => exact ⟨rfl, fun _ => rfl⟩
  | ok content =>
      dsimp only
      generalize (surroundings.tree.workingPath.labelFrom path).display = label
      generalize shown : Page.ofBytes label content mode.interactive surroundings.color = page
      generalize asked : Target.ofPath path settings.fallbackEncoding = target
      rw [asked] at checked
      let checker : Checker Screen := ⟨settings, host surroundings settings page prompt⟩
      have ran : (if mode.onSave = true then checker.save target else checker.sniff target).run
          ⟨sessions, {}⟩ =
          let run := (checker.run target mode.event).run ⟨sessions, {}⟩
          (some run.1, run.2) := by
        unfold Mode.event
        split
        · rename_i save
          rw [Checker.save_run, if_pos (by rw [Bool.and_eq_true_iff]; exact ⟨saved save, checked⟩)]
        · rw [Checker.sniff_run, if_pos checked]
      obtain ⟨collected, marked, silent⟩ :=
        run_shown surroundings settings page prompt target mode.event sessions
      have reported : ((checker.run target mode.event).run ⟨sessions, {}⟩).1 =
          .ofEntries mode.event (Analyzer.all.map fun analyzer =>
            analyzer.entryOf settings page
              (surroundings.printed (analyzer.invocation settings path))) := by
        rw [collected, Bench.report, ← asked, entries_on_bench]
      rw [ran]
      dsimp only
      refine ⟨?_, fun quiet => silent (by rw [← shown]; exact quiet)⟩
      rw [marked, reported, Report.entries_of_entries, ← shown]
      unfold FileReport.ofOutputs
      cases settings.display.gutterMarks with
      | false => rfl
      | true => rfl

/-! ## All files of a run -/

/-- The files among some paths. -/
def targets (paths : List Path) : List Path :=
  paths.filter fun path => settings.checks (.ofPath path settings.fallbackEncoding)

/-- The reports on the files among some paths, in their order. -/
def reports (event : Event) (paths : List Path) : List FileReport :=
  (targets settings paths).filterMap (surroundings.fileReport? settings event)

/-- What the files are told about depends neither on how the sessions are passed on nor on what is
picked. -/
theorem check_files {mode : Mode} (saved : mode.onSave = true → settings.runOnSave = true)
    (quiet : mode.interactive = true ∨ settings.display.quickPanel = false) {targets : List Path}
    (checked : ∀ path ∈ targets,
      settings.checks (.ofPath path settings.fallbackEncoding) = true)
    (prompts : Nat → Prompt) (sessions : Sessions) :
    let outcomes := checkFiles surroundings settings mode prompts sessions targets
    outcomes.filterMap (·.report) =
        targets.filterMap (surroundings.fileReport? settings mode.event) ∧
      String.join (outcomes.map (·.output)) = "" := by
  induction targets generalizing prompts sessions with
  | nil => exact ⟨rfl, rfl⟩
  | cons path rest ih =>
      obtain ⟨own, later⟩ := List.forall_mem_cons.1 checked
      have first := check_file surroundings settings (prompts 0) own saved sessions
      obtain ⟨reported, silent⟩ := ih later (fun turn => prompts (turn + 1))
        (checkFile surroundings settings mode (prompts 0) sessions path).2
      rw [checkFiles]
      dsimp only
      constructor
      · rw [List.filterMap_cons, List.filterMap_cons, first.1, reported]
      · rw [List.map_cons, String.join_cons, first.2 quiet, silent]
        rfl

theorem sniff_paths_without_file {mode : Mode} (prompts : Nat → Prompt) (output : String)
    {paths : List Path} (nothing : targets settings paths = []) :
    let outcome := sniffPaths surroundings settings mode prompts output paths
    outcome.output = "" ∧ outcome.exitCode = 0 := by
  unfold targets at nothing
  intro outcome
  dsimp only [outcome]
  unfold sniffPaths
  dsimp only
  rw [if_pos (List.isEmpty_iff.2 nothing)]
  exact ⟨rfl, rfl⟩

/-- Of a quiet run only the reports are seen. -/
theorem sniff_paths {mode : Mode} (saved : mode.onSave = true → settings.runOnSave = true)
    (quiet : mode.interactive = true ∨ settings.display.quickPanel = false)
    (prompts : Nat → Prompt) (output : String) {paths : List Path}
    (something : targets settings paths ≠ []) :
    let outcome := sniffPaths surroundings settings mode prompts output paths
    let files := reports surroundings settings mode.event paths
    outcome.output = printedText output files surroundings.color ∧
      outcome.exitCode = if 0 < (Summary.ofReports files).total then 1 else 0 := by
  have checked : ∀ path ∈ targets settings paths,
      settings.checks (.ofPath path settings.fallbackEncoding) = true :=
    fun path member => (List.mem_filter.1 member).2
  obtain ⟨reported, silent⟩ := check_files surroundings settings saved quiet checked prompts ∅
  unfold targets at something reported silent
  intro outcome files
  dsimp only [outcome]
  unfold sniffPaths
  dsimp only
  rw [if_neg (mt List.isEmpty_iff.1 something)]
  dsimp only
  rw [reported, silent]
  exact ⟨String.empty_append, rfl⟩

/-! ## A run with its arguments -/

/-- Settings that are found for a run without picking never ask for a list. -/
theorem discovered_panel {tree : FileTree} {start : Option Path} {overrides : Overrides}
    {found : Settings.Discovered} (settled : Settings.discover tree start overrides = .ok found)
    {panel : Bool} (overridden : overrides.quickPanel = some panel) :
    found.settings.display.quickPanel = panel := by
  unfold Settings.discover at settled
  dsimp only at settled
  cases loaded : Settings.load tree (Settings.root tree (start.getD ⟨[Path.dot]⟩)) with
  | error cause =>
      rw [loaded] at settled
      cases settled
  | ok preferences =>
      rw [loaded] at settled
      cases settled
      dsimp only [Settings.override]
      rw [overridden]
      rfl

/-- Whether the user is asked to pick. -/
def attends (options : CommandLine.SniffOptions) : Bool :=
  options.pick && options.output.getD "human" != "json"

def modeFor (options : CommandLine.SniffOptions) : Mode := ⟨attends options, options.onSave⟩

/-- The settings that a run of the command finds. -/
def settingsFor (tree : FileTree) (options : CommandLine.SniffOptions) :
    Except Settings.DocumentError Settings.Discovered :=
  Settings.discover tree (options.repoRoot.map Path.ofString)
    (sniffOverrides options (attends options))

/-- Once its settings are found and its arguments name paths, a run shows the reports on them. -/
theorem sniff_run {options : CommandLine.SniffOptions} {found : Settings.Discovered}
    {paths : List Path} (settled : settingsFor surroundings.tree options = .ok found)
    (named : expandArguments surroundings.tree options.paths = .ok paths)
    (saved : options.onSave = true → found.settings.runOnSave = true) (prompts : Nat → Prompt) :
    let outcome := sniff surroundings options prompts
    let files := reports surroundings found.settings (modeFor options).event paths
    (targets found.settings paths = [] → outcome.output = "" ∧ outcome.exitCode = 0) ∧
      (targets found.settings paths ≠ [] →
        outcome.output =
            printedText (options.output.getD "human") files surroundings.color ∧
          outcome.exitCode = if 0 < (Summary.ofReports files).total then 1 else 0) := by
  have quiet : attends options = true ∨ found.settings.display.quickPanel = false := by
    cases attended : attends options with
    | true => exact .inl rfl
    | false =>
        rw [settingsFor, attended] at settled
        exact .inr (discovered_panel settled rfl)
  have ran : (sniff surroundings options prompts).output =
        (sniffPaths surroundings found.settings (modeFor options) prompts
          (options.output.getD "human") paths).output ∧
      (sniff surroundings options prompts).exitCode =
        (sniffPaths surroundings found.settings (modeFor options) prompts
          (options.output.getD "human") paths).exitCode := by
    unfold settingsFor attends at settled
    unfold sniff modeFor attends
    dsimp only
    rw [settled]
    dsimp only
    rw [named]
    exact ⟨rfl, rfl⟩
  intro outcome files
  dsimp only [outcome]
  rw [ran.1, ran.2]
  constructor
  · intro nothing
    exact sniff_paths_without_file surroundings found.settings prompts _ nothing
  · intro something
    exact sniff_paths surroundings found.settings saved quiet prompts _ something

theorem expand_plain (tree : FileTree) {arguments : List String}
    (plain : ∀ argument ∈ arguments, Glob.isPattern argument = false) :
    expandArguments tree arguments = .ok (arguments.map Path.ofString) := by
  induction arguments with
  | nil => rfl
  | cons argument rest ih =>
      obtain ⟨own, later⟩ := List.forall_mem_cons.1 plain
      rw [expandArguments, if_neg (by rw [own]; exact Bool.false_ne_true), ih later]
      rfl

end Program

/-! ## Files apart -/

/-- What a file is told about is the same in two surroundings: its content, its label and what the
enabled tools print about it. -/
structure SameFile (settings : Settings) (path : Path) (surroundings other : Surroundings) :
    Prop where
  content : surroundings.tree.read path = other.tree.read path
  workingPath : surroundings.tree.workingPath = other.tree.workingPath
  color : surroundings.color = other.color
  printed : ∀ analyzer, (settings.tools.get analyzer).enabled = true →
    surroundings.printed (analyzer.invocation settings path) =
      other.printed (analyzer.invocation settings path)

theorem file_report_congr {settings : Settings} {path : Path} {surroundings other : Surroundings}
    (same : SameFile settings path surroundings other) (event : Event) :
    surroundings.fileReport? settings event path = other.fileReport? settings event path := by
  have entries (page : Page) :
      Analyzer.all.map (fun analyzer => analyzer.entryOf settings page
          (surroundings.printed (analyzer.invocation settings path))) =
        Analyzer.all.map fun analyzer => analyzer.entryOf settings page
          (other.printed (analyzer.invocation settings path)) := by
    apply List.map_congr_left
    intro analyzer _
    unfold Analyzer.entryOf
    split
    · rename_i enabled
      rw [same.printed analyzer enabled]
    · rfl
  unfold Surroundings.fileReport? FileReport.ofOutputs
  dsimp only
  rw [same.content, same.workingPath, same.color]
  simp only [entries]

theorem gutter_of_reported {surroundings : Surroundings} {settings : Settings} {event : Event}
    {path : Path} {file : FileReport}
    (reported : surroundings.fileReport? settings event path = some file) :
    file.gutter.isSome = settings.display.gutterMarks := by
  obtain ⟨content, -, rfl⟩ := Option.map_eq_some_iff.1 reported
  unfold FileReport.ofOutputs
  cases settings.display.gutterMarks with
  | false => rfl
  | true => rfl

/-- For a reader, plain paths are reported on one after the other, as often as they are given. Each
of them that is a file and can be read has a block, which follows from that file, the settings and
what the tools print about it, whatever the sessions hold. A block has a line for each finding, and
the gutter behind them if the settings want one. A line with the counts of all findings and files
stands behind the last block, and findings show in the exit code. -/
theorem files_reported_apart (surroundings : Surroundings) (options : CommandLine.SniffOptions)
    (prompts : Nat → Prompt) (found : Settings.Discovered)
    (settled : Program.settingsFor surroundings.tree options = .ok found)
    (read : options.output ≠ some "json")
    (plain : ∀ argument ∈ options.paths, Glob.isPattern argument = false)
    (something : Program.targets found.settings (options.paths.map Path.ofString) ≠ [])
    (saved : options.onSave = true → found.settings.runOnSave = true) :
    let outcome := Program.sniff surroundings options prompts
    let color := surroundings.color
    let event := (Program.modeFor options).event
    let files := Program.reports surroundings found.settings event
      (options.paths.map Path.ofString)
    let total := findingCount files .linter + findingCount files .sniffer +
      findingCount files .messDetector
    (∃ blocks summary, List.Forall₂ (FileBlock color) files blocks ∧
      SummaryLine color files summary ∧
      outcome.output = String.join blocks ++ summary ++ "\n" ∧
      total = (files.flatMap (·.humanLines color)).length ∧
      outcome.exitCode = if 0 < total then 1 else 0) ∧
    (∀ file ∈ files, file.report.told.map (·.2) = file.report.findings ∧
      file.gutter.isSome = found.settings.display.gutterMarks) ∧
    (∀ path ∈ Program.targets found.settings (options.paths.map Path.ofString), ∀ prompt sessions,
      (Program.checkFile surroundings found.settings (Program.modeFor options) prompt sessions
        path).1.report = surroundings.fileReport? found.settings event path) ∧
    ∀ other path, SameFile found.settings path surroundings other →
      surroundings.fileReport? found.settings event path =
        other.fileReport? found.settings event path := by
  intro outcome color event files total
  have ran := (Program.sniff_run surroundings settled
    (Program.expand_plain surroundings.tree plain) saved prompts).2 something
  have mode : options.output.getD "human" ≠ "json" := by
    cases given : options.output with
    | none => decide
    | some name => exact fun json => read (by rw [given, ← json]; rfl)
  have counted : total = (Summary.ofReports files).total := (Summary.total_counts files).symm
  refine ⟨⟨files.map (·.block color), _, ?_, Summary.summary_line files color, ?_, ?_, ?_⟩,
    ?_, ?_, ?_⟩
  · rw [List.forall₂_map_right_iff, List.forall₂_same]
    exact fun file _ => file_block color file
  · rw [ran.1, printedText, if_neg mode]
    rfl
  · rw [counted, Summary.total_lines files color]
  · rw [counted]
    exact ran.2
  · intro file member
    obtain ⟨path, -, reported⟩ := List.mem_filterMap.1 member
    exact ⟨file.report.told_findings, gutter_of_reported reported⟩
  · intro path member prompt sessions
    exact (Program.check_file surroundings found.settings prompt (List.mem_filter.1 member).2 saved
      sessions).1
  · intro other path same
    exact file_report_congr same event

/-- A repository with a source file and a note, which is the working directory. -/
def sourceAndNote : FileTree :=
  let place (name : String) : Place := [Bytes.ofString name, Bytes.ofString "w"]
  let repository :=
    FileTree.withFile { workingDirectory := [Bytes.ofString "w"] } (place ".git") [] false
  (repository.withFile (place "n.txt") [] false).withFile (place "a.php")
    (Bytes.ofString "<?php\n") false

def linterRow : Bytes := Bytes.ofString "e on line 1"

def snifferRow : Bytes :=
  Bytes.ofString "line=\"1\" column=\"1\" severity=\"error\" message=\"m\" source=\"S\""

/-- The linter and the sniffer find the same in every file. -/
def foundAnywhere (vector : List String) : Except FileError Bytes :=
  match vector.head? with
  | some "php" => .ok linterRow
  | some "phpcs" => .ok snifferRow
  | _ => .error .notFound

def sourceTwice : CommandLine.SniffOptions where
  paths := ["a.php", "gone.php", "n.txt", "a.php"]

def sourceSettings : Settings :=
  Settings.default.override (Program.sniffOverrides sourceTwice false)

def sourceEntries : List Entry :=
  [⟨.linter, [⟨⟨1, "e"⟩, 0⟩]⟩, ⟨.sniffer, [⟨⟨1, "m"⟩, 0⟩]⟩, ⟨.messDetector, []⟩]

def sourceReport : FileReport where
  label := "a.php"
  report := .ofEntries .explicit sourceEntries
  gutter := some "✖     1 │ <?php\n"

theorem linter_row_read :
    ToolOutput.parse sourceSettings linterRow sourceSettings.fallbackEncoding .linter =
      [⟨1, "e"⟩] := by
  rw [ToolOutput.LinterLine.parse_location rfl]
  decide +kernel

theorem sniffer_row_read :
    ToolOutput.parse sourceSettings snifferRow sourceSettings.fallbackEncoding .sniffer =
      [⟨1, "m"⟩] := by
  rw [ToolOutput.Checkstyle.parse_records]
  decide +kernel

theorem source_reported :
    Surroundings.fileReport? ⟨sourceAndNote, foundAnywhere, false⟩ sourceSettings .explicit
      (.ofString "a.php") = some sourceReport := by
  let surroundings : Surroundings := ⟨sourceAndNote, foundAnywhere, false⟩
  let page := Page.ofBytes "a.php" (Bytes.ofString "<?php\n") false false
  have linter : surroundings.printed
      (Analyzer.linter.invocation sourceSettings (.ofString "a.php")) = linterRow := rfl
  have sniffer : surroundings.printed
      (Analyzer.sniffer.invocation sourceSettings (.ofString "a.php")) = snifferRow := rfl
  have entries : Analyzer.all.map (fun analyzer => analyzer.entryOf sourceSettings page
      (surroundings.printed (analyzer.invocation sourceSettings (.ofString "a.php")))) =
      sourceEntries := by
    simp only [Analyzer.all, List.map_cons, List.map_nil, Analyzer.entryOf, linter, sniffer,
      linter_row_read, sniffer_row_read]
    rfl
  have read : sourceAndNote.read (.ofString "a.php") = .ok (Bytes.ofString "<?php\n") := rfl
  have label : (sourceAndNote.workingPath.labelFrom (.ofString "a.php")).display = "a.php" := by
    decide +kernel
  have marks : sourceEntries.foldl (Marks.renew true) [] =
      [("Linter", [0], .cross), ("Sniffer", [0], .dot)] := by
    decide +kernel
  have gutter : page.gutter [("Linter", [0], .cross), ("Sniffer", [0], .dot)] =
      "✖     1 │ <?php\n" := by
    decide +kernel
  rw [Surroundings.fileReport?, read, label]
  unfold FileReport.ofOutputs
  dsimp only [Except.toOption, Option.map_some]
  rw [entries, marks, gutter]
  rfl

/-- What is printed for the file. -/
theorem source_block {block : String} (shown : FileBlock false sourceReport block) :
    block = "✖ ⟦Linter⟧ a.php:1 — e\n● ⟦Sniffer⟧ a.php:1 — m\n✖     1 │ <?php\n" := by
  rw [shown.text]
  decide +kernel

/-- A source file that is given twice has two blocks. Neither a note nor a missing file shows. -/
theorem source_twice_reported_twice :
    let surroundings : Surroundings := ⟨sourceAndNote, foundAnywhere, false⟩
    ∃ found, Program.settingsFor surroundings.tree sourceTwice = .ok found ∧
      sourceTwice.output ≠ some "json" ∧
      (∀ argument ∈ sourceTwice.paths, Glob.isPattern argument = false) ∧
      Program.targets found.settings (sourceTwice.paths.map Path.ofString) ≠ [] ∧
      (sourceTwice.onSave = true → found.settings.runOnSave = true) ∧
      (Program.sniff surroundings sourceTwice).output =
        "✖ ⟦Linter⟧ a.php:1 — e\n● ⟦Sniffer⟧ a.php:1 — m\n✖     1 │ <?php\n" ++
          ("✖ ⟦Linter⟧ a.php:1 — e\n● ⟦Sniffer⟧ a.php:1 — m\n✖     1 │ <?php\n" ++
            "— Summary — linter=2 sniffer=2 mess_detector=0 files=2\n") ∧
      (Program.sniff surroundings sourceTwice).exitCode = 1 := by
  intro surroundings
  have settled : Program.settingsFor sourceAndNote sourceTwice =
      .ok ⟨sourceSettings, Settings.startPath none, false⟩ :=
    Settings.discovered_undocumented _ (by decide +kernel) (by decide +kernel)
  have files : Program.targets sourceSettings (sourceTwice.paths.map Path.ofString) =
      [.ofString "a.php", .ofString "gone.php", .ofString "a.php"] := by
    decide +kernel
  have something : Program.targets sourceSettings (sourceTwice.paths.map Path.ofString) ≠ [] := by
    rw [files]
    exact List.cons_ne_nil _ _
  have plain : ∀ argument ∈ sourceTwice.paths, Glob.isPattern argument = false := by decide
  have human : sourceTwice.output ≠ some "json" := by decide
  have demanded : sourceTwice.onSave = true → sourceSettings.runOnSave = true :=
    fun saved => absurd saved Bool.false_ne_true
  have reported := (files_reported_apart surroundings sourceTwice (fun _ => .unattended) _ settled
    human plain something demanded).1
  have twice : Program.reports surroundings sourceSettings (Program.modeFor sourceTwice).event
      (sourceTwice.paths.map Path.ofString) = [sourceReport, sourceReport] := by
    have explicit : (Program.modeFor sourceTwice).event = .explicit := rfl
    have gone : surroundings.fileReport? sourceSettings .explicit (.ofString "gone.php") = none :=
      rfl
    rw [Program.reports, files, explicit, List.filterMap_cons_some source_reported,
      List.filterMap_cons_none gone, List.filterMap_cons_some source_reported, List.filterMap_nil]
  rw [twice] at reported
  obtain ⟨blocks, summary, shown, counted, output, -, exit⟩ := reported
  obtain - | ⟨first, - | ⟨second, - | _⟩⟩ := shown
  have line : summary = "— Summary — linter=2 sniffer=2 mess_detector=0 files=2" := by
    cases counted
    decide +kernel
  refine ⟨_, settled, human, plain, something, demanded, ?_, exit⟩
  rw [output, source_block first, source_block second, line]
  decide +kernel

end Checkup
