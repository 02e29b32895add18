import Checkup.Checker
import Checkup.CommandLine
import Checkup.Glob
import Checkup.Settings.Discovery
import Checkup.Settings.Json
import Checkup.Summary

/-!
# The program

What each command prints, given the files, the tools and the arguments. Every file that can be
read has a block of its own; a summary follows, and findings show in the exit code.
-/

namespace Checkup

open Terminal (Page Prompt Screen)

/-- What surrounds a run of the program. -/
structure Surroundings where
  tree : FileTree
  /-- What a tool writes to its standard output, if it can be run. -/
  runTool : List String → Except FileError Bytes
  color : Bool

structure Outcome where
  exitCode : Nat := 0
  output : String := ""
  errors : String := ""
  deriving DecidableEq, Repr

namespace Program

def version : String := "0.1.0"

def errorLine (color : Bool) (text : String) : String :=
  Terminal.errorPrefix color ++ " " ++ text ++ "\n"

def noteLine (color : Bool) (text : String) : String :=
  Terminal.notePrefix color ++ " " ++ text ++ "\n"

def infoLine (color : Bool) (text : String) : String :=
  Terminal.infoPrefix color ++ " " ++ text ++ "\n"

/-- Details are logged only for those who debug. -/
def logLine (settings : Settings) (level : LogLevel) (text : String) : String :=
  if level = .warning ∨ settings.debug then "[phpcheck] " ++ text ++ "\n" else ""

def logOn (settings : Settings) (level : LogLevel) (text : String) (screen : Screen) : Screen :=
  { screen with errors := screen.errors ++ logLine settings level text }

/-- Runs a tool and logs what came of it. A tool that cannot be run writes nothing. -/
def runLogged (surroundings : Surroundings) (settings : Settings) (vector : List String)
    (screen : Screen) : Bytes × Screen :=
  match vector with
  | [] => ([], screen)
  | program :: _ =>
    let screen := logOn settings .detail (" ".intercalate vector) screen
    match surroundings.runTool vector with
    | .ok output =>
      (output,
        logOn settings .detail (program ++ " wrote " ++ toString output.length ++ " bytes") screen)
    | .error error =>
      ([], logOn settings .detail ("failed to run " ++ program ++ ": " ++ error.message) screen)

/-- A page as the host of a run, in which a failed prompt is logged. -/
def host (surroundings : Surroundings) (settings : Settings) (page : Page) (prompt : Prompt) :
    Host Screen :=
  { page.surface prompt with
    presentList := fun items screen =>
      let (picked, screen) := page.presentList items screen prompt
      if page.interactive && !items.isEmpty then
        match prompt page.question items with
        | .ok _ => (picked, screen)
        | .error cause =>
          (picked, logOn settings .detail ("selection prompt failed: " ++ cause) screen)
      else (picked, screen)
    run := runLogged surroundings settings
    log := logOn settings }

/-! ## Files -/

/-- How the files of one run are checked. -/
structure Mode where
  interactive : Bool
  onSave : Bool

/-- A checked file with what was written to the standard streams. -/
structure FileOutcome where
  report : Option FileReport := none
  output : String := ""
  errors : String := ""

/-- Checks one file. -/
def checkFile (surroundings : Surroundings) (settings : Settings) (mode : Mode) (prompt : Prompt)
    (sessions : Sessions) (path : Path) : FileOutcome × Sessions :=
  let label := (surroundings.tree.workingPath.labelFrom path).display
  match surroundings.tree.read path with
  | .error error =>
    ({ errors := errorLine surroundings.color ("cannot read " ++ label ++ ": " ++ error.message) },
      sessions)
  | .ok content =>
    let page := Page.ofBytes label content mode.interactive surroundings.color
    let checker : Checker Screen := ⟨settings, host surroundings settings page prompt⟩
    let target := Target.ofPath path settings.fallbackEncoding
    let command := if mode.onSave then checker.save target else checker.sniff target
    let (report, desk) := command.run ⟨sessions, {}⟩
    let screen := desk.host
    match report with
    | some report =>
      let gutter := if settings.display.gutterMarks then some (page.gutter screen.marks) else none
      (⟨some ⟨label, report, gutter⟩, screen.output, screen.errors⟩, desk.sessions)
    | none =>
      let note := noteLine surroundings.color "run_on_save is disabled; nothing to do."
      (⟨none, screen.output, screen.errors ++ if mode.onSave then note else ""⟩, desk.sessions)

/-- Checks files one after the other. Each of them has a prompt of its own. -/
def checkFiles (surroundings : Surroundings) (settings : Settings) (mode : Mode) :
    (prompts : Nat → Prompt) → Sessions → List Path → List FileOutcome
  | _, _, [] => []
  | prompts, sessions, path :: rest =>
    let (outcome, sessions) := checkFile surroundings settings mode (prompts 0) sessions path
    outcome :: checkFiles surroundings settings mode (fun turn => prompts (turn + 1)) sessions rest

/-- The paths that the arguments name, or the first pattern that is none. Nothing tells of a
directory that a pattern could not list. -/
def expandArguments (tree : FileTree) : List String → Except String (List Path)
  | [] => .ok []
  | argument :: rest =>
    if Glob.isPattern argument then
      match Glob.Pattern.ofText? argument with
      | none => .error argument
      | some pattern => (expandArguments tree rest).map (pattern.paths tree ++ ·)
    else (expandArguments tree rest).map (Path.ofString argument :: ·)

/-! ## Commands -/

def sniffOverrides (options : CommandLine.SniffOptions) (interactive : Bool) : Overrides where
  debug := if options.debug then some true else none
  linter := if options.noLinter then some false else none
  sniffer := if options.noSniffer then some false else none
  messDetector := if options.noMessDetector then some false else none
  quickPanel := if interactive then none else some false

/-- Checks the files among the paths and prints their reports. -/
def sniffPaths (surroundings : Surroundings) (settings : Settings) (mode : Mode)
    (prompts : Nat → Prompt) (output : String) (paths : List Path) : Outcome :=
  let isChecked (path : Path) : Bool :=
    settings.checks (.ofPath path settings.fallbackEncoding)
  let skipped := String.join <| (paths.filter (!isChecked ·)).map fun path =>
    logLine settings .detail ("skipping " ++ path.display ++ ": extension not enabled")
  let targets := paths.filter isChecked
  if targets.isEmpty then
    { errors := skipped ++ infoLine surroundings.color "No matching files to check." }
  else
    let outcomes := checkFiles surroundings settings mode prompts ∅ targets
    let files := outcomes.filterMap (·.report)
    { exitCode := if 0 < (Summary.ofReports files).total then 1 else 0
      output := String.join (outcomes.map (·.output)) ++
        printedText output files surroundings.color
      errors := skipped ++ String.join (outcomes.map (·.errors)) }

/-- Checks what the arguments name, with the settings that are found. The line about a pattern that
is none ends before the reason. -/
def sniff (surroundings : Surroundings) (options : CommandLine.SniffOptions)
    (prompts : Nat → Prompt := fun _ => .unattended) : Outcome :=
  let color := surroundings.color
  let output := options.output.getD "human"
  let interactive := options.pick && output != "json"
  let start := options.repoRoot.map Path.ofString
  match Settings.discover surroundings.tree start (sniffOverrides options interactive) with
  | .error error => { exitCode := 2, errors := errorLine color error.message }
  | .ok found =>
    let note :=
      if found.documented || output == "json" then ""
      else noteLine color "No phpcheck.toml found; using defaults."
    match expandArguments surroundings.tree options.paths with
    | .error argument =>
      { exitCode := 2, errors := note ++ errorLine color ("invalid pattern '" ++ argument ++ "':") }
    | .ok paths =>
      let mode : Mode := ⟨interactive, options.onSave⟩
      let outcome := sniffPaths surroundings found.settings mode prompts output paths
      { outcome with errors := note ++ outcome.errors }

def config (surroundings : Surroundings) (repoRoot : Option String) : Outcome :=
  match Settings.discover surroundings.tree (repoRoot.map Path.ofString) {} with
  | .error error => { exitCode := 2, errors := errorLine surroundings.color error.message }
  | .ok found => { output := found.settings.json.render ++ "\n" }

/-- Runs a command for a user, who answers a prompt for each file that is checked. -/
def run (surroundings : Surroundings) (command : CommandLine.Command)
    (prompts : Nat → Prompt := fun _ => .unattended) : Outcome :=
  match command with
  | .version => { output := version ++ "\n" }
  | .config repoRoot => config surroundings repoRoot
  | .sniff options => sniff surroundings options prompts

end Program

end Checkup
