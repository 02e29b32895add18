import Checkup.Path
import Checkup.Settings

/-!
# Invocations

The argument vector that a tool is run with, its executable first.
-/

namespace Checkup

open Settings (Arguments)

/-- An argument with a value is one token, joined by an equals sign. -/
def Settings.Arguments.tokens (arguments : Arguments) : List String :=
  arguments.map fun (name, value) => if value.isEmpty then name else name ++ "=" ++ value

namespace Analyzer

/-- The text by which a tool is told about a file. -/
def pathToken (path : Path) : String := path.normalize.display

def executable (analyzer : Analyzer) (settings : Settings) : String :=
  let configured := (settings.tools.get analyzer).executable
  if configured.isEmpty then analyzer.defaultExecutable else configured

/-- The mess detector takes the path before its report format, the others take it last. -/
def invocation (analyzer : Analyzer) (settings : Settings) (path : Path) : List String :=
  let executable := analyzer.executable settings
  let extra := (settings.tools.get analyzer).arguments.tokens
  match analyzer with
  | .linter => [executable, "-l", "-d display_errors=On"] ++ extra ++ [pathToken path]
  | .sniffer => [executable, "--report=checkstyle"] ++ extra ++ [pathToken path]
  | .messDetector => [executable, pathToken path, "text"] ++ extra

end Analyzer

end Checkup
