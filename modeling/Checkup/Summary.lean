import Checkup.Json
import Checkup.Report
import Checkup.Terminal.Screen

/-!
# Printed reports

The reports of several files as lines for a reader or as one JSON document, with totals at the
end.
-/

namespace Checkup

open Terminal (glyph styled bold)

/-- A checked file as it is shown. -/
structure FileReport where
  label : String
  report : Report
  gutter : Option String

structure Summary where
  totals : PerAnalyzer Nat
  files : Nat
  deriving DecidableEq, Repr

namespace Summary

def ofReports (files : List FileReport) : Summary :=
  let total (analyzer : Analyzer) : Nat :=
    files.foldl (fun total file => total + file.report.count analyzer.name) 0
  ⟨⟨total .linter, total .sniffer, total .messDetector⟩, files.length⟩

def total (summary : Summary) : Nat :=
  summary.totals.linter + summary.totals.sniffer + summary.totals.messDetector

def text (summary : Summary) : String :=
  "— Summary — linter=" ++ toString summary.totals.linter ++ " sniffer=" ++
    toString summary.totals.sniffer ++ " mess_detector=" ++ toString summary.totals.messDetector ++
    " files=" ++ toString summary.files

def json (summary : Summary) : Json :=
  .object
    [("linter", .number summary.totals.linter), ("sniffer", .number summary.totals.sniffer),
      ("mess_detector", .number summary.totals.messDetector), ("files", .number summary.files)]

end Summary

def Marker.name : Marker → String
  | .cross => "cross"
  | .dot => "dot"

def Event.name : Event → String
  | .explicit => "explicit"
  | .onSave => "on_save"

namespace FileReport

def findingLine (file : FileReport) (color : Bool) (analyzer : Analyzer) (finding : Finding) :
    String :=
  let tag := styled color bold ("⟦" ++ analyzer.name ++ "⟧")
  let place := styled color bold (file.label ++ ":" ++ toString finding.line)
  glyph color analyzer.marker ++ " " ++ tag ++ " " ++ place ++ " — " ++ finding.message

/-- One line for each finding, in the order of the report. -/
def humanLines (file : FileReport) (color : Bool) : List String :=
  file.report.entries.flatMap fun entry =>
    entry.findings.map (file.findingLine color entry.analyzer)

/-- The lines of the file and its gutter. -/
def block (file : FileReport) (color : Bool) : String :=
  String.join ((file.humanLines color).map (· ++ "\n")) ++ file.gutter.getD ""

def findingJson (finding : Finding) : Json :=
  .object
    [("line", .number finding.line), ("message", .text finding.message),
      ("anchor", .number finding.anchor)]

def entryJson (entry : Entry) : Json :=
  .object
    [("name", .text entry.analyzer.name), ("marker", .text entry.analyzer.marker.name),
      ("findings", .list (entry.findings.map findingJson))]

def json (file : FileReport) : Json :=
  .object
    [("file", .text file.label),
      ("messages", .list (file.report.messages.map .text)),
      ("line_index", .object
        (file.report.lineIndex.toList.map fun (line, message) => (toString line, .text message))),
      ("entries", .list (file.report.entries.map entryJson)),
      ("event", .text file.report.event.name)]

end FileReport

def humanText (files : List FileReport) (color : Bool) : String :=
  String.join (files.map (·.block color)) ++ styled color bold (Summary.ofReports files).text ++
    "\n"

def jsonText (files : List FileReport) : String :=
  (Json.object
    [("files", .list (files.map (·.json))), ("summary", (Summary.ofReports files).json)]).render ++
    "\n"

/-- What is printed in an output mode; every mode but `json` is for a reader. -/
def printedText (mode : String) (files : List FileReport) (color : Bool) : String :=
  if mode = "json" then jsonText files else humanText files color

end Checkup
