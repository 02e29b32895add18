import Checkup.Message
import Checkup.Pattern
import Checkup.Settings
import Checkup.Word

/-!
# Tool output

Finds the violations in what a tool printed, each a line and a message. The linter's output is searched
once with a configured pattern; the others print one record or row for each violation.
-/

namespace Checkup.ToolOutput

open Pattern (Node Ranges)

/-- A match in the output of a tool: the digits of a line and the bytes of a message. -/
structure RawViolation where
  line : Bytes
  message : Bytes
  deriving DecidableEq, Repr

/-! ## Record patterns -/

def inLine : Ranges := [(0, 9), (11, 255)]

def digit : Ranges := [(0x30, 0x39)]

def wordByte : Ranges := [(0x30, 0x39), (0x41, 0x5A), (0x5F, 0x5F), (0x61, 0x7A)]

def blank : Ranges := [(0x09, 0x09), (0x20, 0x20)]

def anything : Node := .star (.byte inLine) true

def many (set : Ranges) : Node := .plus (.byte set) true

/-- The bytes of a text, one after the other. -/
def exact (text : String) : Node :=
  .concatAll ((Bytes.ofString text).map fun byte => .byte (.single byte.toNat))

def groupNames : List (String × Nat) := [("line", 1), ("message", 2)]

/-- One record of a checkstyle report, with the attributes in their order. -/
def checkstyleRecord : Pattern :=
  .ofNode
    (.concatAll
      [anything, exact "line=\"", .group 1 (many digit), exact "\" column=\"", many digit,
        exact "\" severity=\"", many wordByte, exact "\" message=\"", .group 2 anything,
        exact "\" source"])
    groupNames

/-- One row of a text report: a path, a colon, a line, blanks and a message. -/
def textRow : Pattern :=
  .ofNode
    (.concatAll [anything, exact ":", .group 1 (many digit), many blank, .group 2 anything])
    groupNames

/-- A match counts only if both of its groups took part. -/
def rawViolation? (pattern : Pattern) (subject : Pattern.Subject) (found : Pattern.Match) :
    Option RawViolation := do
  return ⟨← pattern.group? subject found "line", ← pattern.group? subject found "message"⟩

def every (pattern : Pattern) (raw : Bytes) : List RawViolation :=
  let subject := raw.toArray
  (pattern.allMatches subject).filterMap (rawViolation? pattern subject)

def first (pattern : Pattern) (raw : Bytes) : List RawViolation :=
  let subject := raw.toArray
  ((pattern.matches? subject).bind (rawViolation? pattern subject)).toList

/-- A linter pattern that cannot be read finds nothing. -/
def linterViolations (pattern : String) (raw : Bytes) : List RawViolation :=
  match Pattern.ofText? pattern with
  | some pattern => first pattern raw
  | none => []

def rawViolations (settings : Settings) (raw : Bytes) : Analyzer → List RawViolation
  | .linter => linterViolations settings.linterPattern raw
  | .sniffer => every checkstyleRecord raw
  | .messDetector => every textRow raw

/-! ## Reading a match -/

def readDigits? : (value : Nat) → Bytes → Option Nat
  | value, [] => some value
  | value, byte :: rest =>
    if 0x30 ≤ byte ∧ byte ≤ 0x39 then readDigits? (value * 10 + (byte.toNat - 0x30)) rest else none

/-- A line is decimal, may carry a plus sign and fits a 64-bit word. -/
def lineNumber? (bytes : Bytes) : Option Nat :=
  let digits := if bytes.head? = some 0x2B then bytes.drop 1 else bytes
  if digits.isEmpty then none
  else (readDigits? 0 digits).filter (· < wordLimit)

/-- What a tool says about a line. The line is the tool's own and may lie outside of the file. -/
structure Violation where
  line : Nat
  message : String
  deriving DecidableEq, Repr

/-- Why a match yields no violation. -/
inductive Dropped where
  | unusableLine
  | undecodable (line : Nat) (error : Message.DecodeError)
  deriving DecidableEq, Repr

def readViolation (fallback : String) (raw : RawViolation) : Except Dropped Violation :=
  match lineNumber? raw.line with
  | none => .error .unusableLine
  | some line =>
    match Message.decode raw.message fallback with
    | .ok message => .ok ⟨line, message⟩
    | .error error => .error (.undecodable line error)

/-- Every match with what became of it, in order of appearance. -/
def readAll (settings : Settings) (raw : Bytes) (fallback : String) (analyzer : Analyzer) :
    List (Except Dropped Violation) :=
  (rawViolations settings raw analyzer).map (readViolation fallback)

/-- The violations that the output reports. -/
def parse (settings : Settings) (raw : Bytes) (fallback : String) (analyzer : Analyzer) :
    List Violation :=
  (readAll settings raw fallback analyzer).filterMap Except.toOption

end Checkup.ToolOutput
