import Checkup.Proofs.ToolOutput.Checkstyle
import Checkup.Proofs.Violations
import Checkup.Terminal.Screen

/-!
# Analyzers apart

When tools answer by their arguments alone, what one analyzer finds depends on its own settings and
on its own tool. A report is then put together from the reports of its analyzers, each of them run
alone.
-/

namespace Checkup

open ToolOutput (Violation)

variable {State Other : Type}

/-- A host on which every tool answers by its arguments alone, whatever was run before. -/
structure Bench (State : Type) where
  host : Host State
  tools : List String → Bytes
  answers : ∀ vector state, (host.run vector state).1 = tools vector

/-- Tools beside a surface, with no log. -/
def Bench.beside (surface : Surface State) (tools : List String → Bytes) : Bench State where
  host := { surface with run := fun vector state => (tools vector, state), log := fun _ _ => id }
  tools
  answers _ _ := rfl

namespace Settings

/-- The same settings with another choice of analyzers. -/
def enabling (settings : Settings) (chosen : Analyzer → Bool) : Settings :=
  { settings with
    tools :=
      { linter := { settings.tools.linter with enabled := chosen .linter }
        sniffer := { settings.tools.sniffer with enabled := chosen .sniffer }
        messDetector := { settings.tools.messDetector with enabled := chosen .messDetector } } }

theorem enabling_get (settings : Settings) (chosen : Analyzer → Bool) (analyzer : Analyzer) :
    (settings.enabling chosen).tools.get analyzer =
      { settings.tools.get analyzer with enabled := chosen analyzer } := by
  cases analyzer <;> rfl

end Settings

namespace Analyzer

/-- What an analyzer reads when its tool answers by its arguments. -/
def reads (analyzer : Analyzer) (settings : Settings) (tools : List String → Bytes)
    (target : Target) : List Violation :=
  match analyzer.question? settings target with
  | none => []
  | some vector =>
    ToolOutput.parse settings (tools vector) target.fallbackEncoding analyzer

theorem violations_on_bench (bench : Bench State) (analyzer : Analyzer) (settings : Settings)
    (target : Target) (state : State) :
    ((analyzer.violations bench.host settings target).run state).1 =
      analyzer.reads settings bench.tools target := by
  rw [violations_run, reads]
  cases analyzer.question? settings target with
  | none => rfl
  | some vector =>
      dsimp only
      rw [bench.answers vector state]

/-! ## What an analyzer depends on -/

variable {analyzer : Analyzer} {settings otherSettings : Settings}

theorem invocation_congr
    (sameTool : settings.tools.get analyzer = otherSettings.tools.get analyzer) (path : Path) :
    analyzer.invocation settings path = analyzer.invocation otherSettings path := by
  unfold invocation executable
  rw [sameTool]

theorem question_congr
    (sameTool : settings.tools.get analyzer = otherSettings.tools.get analyzer)
    (target : Target) :
    analyzer.question? settings target = analyzer.question? otherSettings target := by
  have asked : analyzer.invocation settings = analyzer.invocation otherSettings :=
    funext (invocation_congr sameTool)
  rw [question?, question?, sameTool, asked]

/-- Only the linter is read by a pattern of the settings. -/
theorem parse_congr
    (samePattern : analyzer = .linter → settings.linterPattern = otherSettings.linterPattern)
    (raw : Bytes) (fallback : String) :
    ToolOutput.parse settings raw fallback analyzer =
      ToolOutput.parse otherSettings raw fallback analyzer := by
  have found : ToolOutput.rawViolations settings raw analyzer =
      ToolOutput.rawViolations otherSettings raw analyzer := by
    cases analyzer with
    | linter => exact congrArg (ToolOutput.linterViolations · raw) (samePattern rfl)
    | sniffer => rfl
    | messDetector => rfl
  rw [ToolOutput.parse, ToolOutput.parse, ToolOutput.readAll, ToolOutput.readAll, found]

theorem reads_congr {tools otherTools : List String → Bytes} {target : Target}
    (sameTool : settings.tools.get analyzer = otherSettings.tools.get analyzer)
    (samePattern : analyzer = .linter → settings.linterPattern = otherSettings.linterPattern)
    (sameOutput : ∀ vector, analyzer.question? settings target = some vector →
      tools vector = otherTools vector) :
    analyzer.reads settings tools target = analyzer.reads otherSettings otherTools target := by
  rw [reads, reads, ← question_congr sameTool target]
  cases asked : analyzer.question? settings target with
  | none => rfl
  | some vector =>
      dsimp only
      rw [sameOutput vector asked, parse_congr samePattern]

/-- Whatever the others do, what an analyzer reads is told by whether it is enabled itself. -/
theorem reads_enabling {chosen : Analyzer → Bool} {tools : List String → Bytes} {target : Target}
    (choice : chosen analyzer = true) :
    analyzer.reads (settings.enabling chosen) tools target =
      analyzer.reads (settings.enabling (· = analyzer)) tools target := by
  apply reads_congr
  · rw [Settings.enabling_get, Settings.enabling_get, choice]
    simp
  · intro _
    rfl
  · intro vector _
    rfl

theorem reads_disabled {chosen : Analyzer → Bool} {tools : List String → Bytes} {target : Target}
    (choice : chosen analyzer = false) :
    analyzer.reads (settings.enabling chosen) tools target = [] := by
  have unasked : analyzer.question? (settings.enabling chosen) target = none := by
    rw [question?, Settings.enabling_get, choice]
    rfl
  rw [reads, unasked]

end Analyzer

/-! ## Reports -/

/-- The entry of an analyzer, its violations placed by the surface. -/
def Bench.entry (bench : Bench State) (settings : Settings) (target : Target)
    (analyzer : Analyzer) : Entry :=
  ⟨analyzer, (analyzer.reads settings bench.tools target).map (Analyzer.place bench.host)⟩

theorem collect_each_on_bench (bench : Bench State) (analyzers : List Analyzer)
    (settings : Settings) (target : Target) (state : State) :
    ((Analyzer.collectEach analyzers bench.host settings target).run state).1 =
      analyzers.map (bench.entry settings target) := by
  induction analyzers generalizing state with
  | nil => rfl
  | cons analyzer rest ih =>
      rw [Analyzer.collect_each_cons_run, Analyzer.collect_run, List.map_cons]
      dsimp only
      rw [ih, Analyzer.violations_on_bench]
      rfl

/-- The report of a run on a bench, whatever state the run begins in. -/
def Bench.report (bench : Bench State) (settings : Settings) (target : Target) (event : Event) :
    Report :=
  .ofEntries event (Analyzer.all.map (bench.entry settings target))

theorem collect_on_bench (bench : Bench State) (settings : Settings) (target : Target)
    (event : Event) (state : State) :
    ((collect bench.host settings target event).run state).1 =
      bench.report settings target event := by
  rw [collect_run, Bench.report, ← collect_each_on_bench]

namespace Bench

variable (bench : Bench State) (settings : Settings) (target : Target) (event : Event)

theorem report_paired : (bench.report settings target event).Paired :=
  Report.paired_of_entries event _

theorem report_entries :
    (bench.report settings target event).entries =
      Analyzer.all.map (bench.entry settings target) :=
  Report.entries_of_entries event _

/-- The findings of the chosen analyzers follow each other, each as if it were alone. -/
theorem findings_enabling (chosen : Analyzer → Bool) :
    (bench.report (settings.enabling chosen) target event).findings =
      (Analyzer.all.filter chosen).flatMap fun analyzer =>
        (bench.entry (settings.enabling (· = analyzer)) target analyzer).findings := by
  rw [Report.findings, report_entries, List.flatMap_map]
  generalize Analyzer.all = analyzers
  induction analyzers with
  | nil => rfl
  | cons analyzer rest ih =>
      rw [List.flatMap_cons, ih]
      cases choice : chosen analyzer with
      | false =>
          rw [List.filter_cons_of_neg (by simp [choice]), Bench.entry,
            Analyzer.reads_disabled choice]
          rfl
      | true =>
          rw [List.filter_cons_of_pos choice, List.flatMap_cons, Bench.entry,
            Analyzer.reads_enabling choice]
          rfl

/-- The findings of an analyzer that runs alone. -/
theorem findings_alone (analyzer : Analyzer) :
    (bench.report (settings.enabling (· = analyzer)) target event).findings =
      (bench.entry (settings.enabling (· = analyzer)) target analyzer).findings := by
  have single : Analyzer.all.filter (fun other => decide (other = analyzer)) = [analyzer] := by
    cases analyzer <;> rfl
  rw [findings_enabling, single]
  simp

end Bench

/-- All that the entry of an analyzer depends on is the same in two runs: where the surface places
lines, the settings of its tool, its pattern if it has one, and what its tool prints. -/
structure Agree (analyzer : Analyzer) (target : Target) (bench : Bench State)
    (settings : Settings) (otherBench : Bench Other) (otherSettings : Settings) : Prop where
  places : bench.host.lineToAnchor = otherBench.host.lineToAnchor
  tool : settings.tools.get analyzer = otherSettings.tools.get analyzer
  pattern : analyzer = .linter → settings.linterPattern = otherSettings.linterPattern
  output : ∀ path, target.path = some path →
    bench.tools (analyzer.invocation settings path) =
      otherBench.tools (analyzer.invocation otherSettings path)

/-- A document of three lines without marks. -/
def threeLines : Terminal.Page := .ofBytes "a.php" (Bytes.ofString "<?php\n\nfoo();\n") false false

/-- The sniffer prints a record; the others print what is given. -/
def sniffedBeside (others : Bytes) (vector : List String) : Bytes :=
  if vector.head? = some "phpcs" then
    Bytes.ofString "line=\"3\" column=\"1\" severity=\"error\" message=\"m\" source=\"S\""
  else others

theorem sniffed_beside_read :
    ToolOutput.parse Settings.default (sniffedBeside [] ["phpcs"]) "utf-8" .sniffer =
      [⟨3, "m"⟩] := by
  rw [ToolOutput.Checkstyle.parse_records]
  decide +kernel

end Checkup
