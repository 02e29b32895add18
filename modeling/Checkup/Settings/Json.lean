import Checkup.Json
import Checkup.Settings

/-!
# Settings as JSON

The settings as they are printed for a reader.
-/

namespace Checkup

def ToolSettings.json (tool : ToolSettings) : Json :=
  .object
    [("enabled", .truth tool.enabled), ("executable", .text tool.executable),
      ("args", .object (tool.arguments.map fun (name, value) => (name, .text value)))]

def DisplaySettings.json (display : DisplaySettings) : Json :=
  .object
    [("gutter_marks", .truth display.gutterMarks), ("status", .truth display.status),
      ("quick_panel", .truth display.quickPanel), ("on_save", .truth display.onSave)]

def Settings.json (settings : Settings) : Json :=
  .object
    [("debug", .truth settings.debug),
      ("extensions", .list (settings.extensions.map .text)),
      ("fallback_encoding", .text settings.fallbackEncoding),
      ("run_on_save", .truth settings.runOnSave),
      ("display", settings.display.json),
      ("syntax", settings.tools.linter.json),
      ("syntax_pattern", .text settings.linterPattern),
      ("style", settings.tools.sniffer.json),
      ("complexity", settings.tools.messDetector.json)]

end Checkup
