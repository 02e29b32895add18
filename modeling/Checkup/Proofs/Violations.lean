import Checkup.Proofs.Collect

/-!
# What an analyzer reads

An analyzer asks its tool at most once, with one argument vector. What it reads is told by the
output alone; whatever it could not read goes to the log.
-/

namespace Checkup

open ToolOutput (Violation Dropped)

variable {State : Type}

/-- Writes lines to the log, one after the other. -/
def Host.logAll (host : Host State) (lines : List (LogLevel × String)) (state : State) : State :=
  lines.foldl (fun state line => host.log line.1 line.2 state) state

namespace Analyzer

variable (analyzer : Analyzer) (host : Host State) (settings : Settings) (target : Target)

/-- What the log is told about a match that was read. -/
def complaint? : Except Dropped Violation → Option (LogLevel × String)
  | .ok _ => none
  | .error dropped => some (analyzer.droppedText dropped)

theorem keep_violations_run (results : List (Except Dropped Violation)) (state : State) :
    (analyzer.keepViolations host results).run state =
      (results.filterMap Except.toOption,
        host.logAll (results.filterMap analyzer.complaint?) state) := by
  induction results generalizing state with
  | nil => rfl
  | cons result rest ih =>
      cases result with
      | ok violation =>
          rw [keepViolations, StateT.run_bind, ih]
          rfl
      | error dropped =>
          rw [keepViolations]
          dsimp only
          rw [StateT.run_bind]
          exact ih _

/-- The argument vector that the tool is run with, if it is run. -/
def question? : Option (List String) :=
  if (settings.tools.get analyzer).enabled then
    target.path.map (analyzer.invocation settings)
  else none

/-- What the log is told about the output of a tool. -/
def remarks (raw : Bytes) : List (LogLevel × String) :=
  (.detail, raw.toLossyString) ::
    (if analyzer = .linter ∧ (Pattern.ofText? settings.linterPattern).isNone then
      [(.detail, "syntax pattern does not compile")]
    else []) ++
    (ToolOutput.readAll settings raw target.fallbackEncoding analyzer).filterMap
      analyzer.complaint?

/-- The tool is run once or not at all, and its output is read as it stands. -/
theorem violations_run (state : State) :
    (analyzer.violations host settings target).run state =
      match analyzer.question? settings target with
      | none => ([], state)
      | some vector =>
        let printed := host.run vector state
        (ToolOutput.parse settings printed.1 target.fallbackEncoding analyzer,
          host.logAll (analyzer.remarks settings target printed.1) printed.2) := by
  rw [violations, question?]
  cases enabled : (settings.tools.get analyzer).enabled with
  | false => rfl
  | true =>
      cases file : target.path with
      | none => rfl
      | some path =>
          have kept := analyzer.keep_violations_run host
            (ToolOutput.readAll settings (host.run (analyzer.invocation settings path) state).1
              target.fallbackEncoding analyzer)
          simp only [Bool.not_true, Bool.false_eq_true, if_false, if_true, Option.map_some]
          rw [StateT.run_bind, remarks]
          by_cases unreadable : analyzer = .linter ∧
              (Pattern.ofText? settings.linterPattern).isNone
          · simp only [if_pos unreadable]
            exact kept _
          · simp only [if_neg unreadable]
            exact kept _

end Analyzer

end Checkup
