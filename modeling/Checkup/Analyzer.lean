/-!
# Analyzers

The three tools that look at a file, always in the same order.
-/

namespace Checkup

inductive Marker where
  | cross
  | dot
  deriving DecidableEq, Repr

inductive Analyzer where
  | linter
  | sniffer
  | messDetector
  deriving DecidableEq, Repr

namespace Analyzer

def all : List Analyzer := [.linter, .sniffer, .messDetector]

/-- The name that groups findings and owns marks. -/
def name : Analyzer → String
  | .linter => "Linter"
  | .sniffer => "Sniffer"
  | .messDetector => "MessDetector"

def marker : Analyzer → Marker
  | .linter => .cross
  | .sniffer | .messDetector => .dot

/-- What is run when the settings name no executable. -/
def defaultExecutable : Analyzer → String
  | .linter => "php"
  | .sniffer => "phpcs"
  | .messDetector => "phpmd"

end Analyzer

/-- One value for each analyzer. -/
structure PerAnalyzer (Value : Type) where
  linter : Value
  sniffer : Value
  messDetector : Value
  deriving DecidableEq, Repr

def PerAnalyzer.get {Value : Type} (each : PerAnalyzer Value) : Analyzer → Value
  | .linter => each.linter
  | .sniffer => each.sniffer
  | .messDetector => each.messDetector

end Checkup
