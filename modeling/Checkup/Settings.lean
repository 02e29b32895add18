import Checkup.Analyzer
import Checkup.Settings.Preferences

/-!
# Settings

Preferences with every gap filled by a default, and then changed by the overrides of the command
line.
-/

namespace Checkup

open Settings (Arguments)

structure ToolSettings where
  enabled : Bool
  executable : String
  arguments : Arguments
  deriving DecidableEq, Repr

structure DisplaySettings where
  gutterMarks : Bool
  status : Bool
  quickPanel : Bool
  onSave : Bool
  deriving DecidableEq, Repr

structure Settings where
  debug : Bool
  extensions : List String
  fallbackEncoding : String
  runOnSave : Bool
  display : DisplaySettings
  tools : PerAnalyzer ToolSettings
  linterPattern : String
  deriving DecidableEq, Repr

/-- What the command line sets regardless of any document. -/
structure Overrides where
  debug : Option Bool := none
  linter : Option Bool := none
  sniffer : Option Bool := none
  messDetector : Option Bool := none
  quickPanel : Option Bool := none
  deriving DecidableEq, Repr

namespace Settings

def defaultLinterPattern : String := "(?P<message>.*) on line (?P<line>\\d+)"

def defaultFallback : String := "windows-1252"

def toolOf (preferences : Option ToolPreferences) (enabled : Bool) (arguments : Arguments) :
    ToolSettings :=
  let stated := preferences.getD {}
  { enabled := stated.enabled.getD enabled
    executable := stated.executable.getD ""
    arguments := stated.arguments.getD arguments }

def ofPreferences (preferences : Preferences) : Settings :=
  let display := preferences.display.getD {}
  { debug := preferences.debug.getD false
    extensions := preferences.extensions.getD ["php"]
    fallbackEncoding := preferences.fallbackEncoding.getD defaultFallback
    runOnSave := preferences.runOnSave.getD true
    display :=
      { gutterMarks := display.gutterMarks.getD true
        status := display.status.getD true
        quickPanel := display.quickPanel.getD true
        onSave := display.onSave.getD true }
    tools :=
      { linter := toolOf preferences.linter true []
        sniffer := toolOf preferences.sniffer true [("--standard", "PSR2"), ("-n", "")]
        messDetector := toolOf preferences.messDetector false [("codesize,unusedcode,naming", "")] }
    linterPattern := (preferences.linter.bind (·.pattern)).getD defaultLinterPattern }

/-- The settings when nothing is preferred. -/
def default : Settings := ofPreferences {}

def override (settings : Settings) (overrides : Overrides) : Settings :=
  let enable (tool : ToolSettings) (value : Option Bool) : ToolSettings :=
    { tool with enabled := value.getD tool.enabled }
  { settings with
    debug := overrides.debug.getD settings.debug
    display :=
      { settings.display with
        quickPanel := overrides.quickPanel.getD settings.display.quickPanel }
    tools :=
      { linter := enable settings.tools.linter overrides.linter
        sniffer := enable settings.tools.sniffer overrides.sniffer
        messDetector := enable settings.tools.messDetector overrides.messDetector } }

/-- Extensions are compared without their dot and with regard to case. -/
def accepts (settings : Settings) (extension : String) : Bool :=
  settings.extensions.contains extension

end Settings

end Checkup
