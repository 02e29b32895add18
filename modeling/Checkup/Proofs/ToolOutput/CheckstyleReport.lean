import Checkup.Proofs.ToolOutput.Checkstyle
import Checkup.Proofs.ToolOutput.Reading

/-!
# Checkstyle reports read back

A writer of checkstyle reports puts each violation on a line of its own and escapes its message.
From such a report, with any other lines in between, the violations are read back as they were.
-/

namespace Checkup.ToolOutput.Checkstyle

open Pattern

/-! ## Lines of a report -/

/-- A violation with what a writer of reports adds to it, and what it makes of the message. -/
structure Entry where
  violation : Violation
  column : Nat
  severity : String
  written : String
  source : String
  lineFits : violation.line < wordLimit
  severityNonempty : severity ≠ ""
  severityWord : severity.toList.all fun char => char.isAlphanum || char == '_'
  messageOnLine : '\n' ∉ violation.message.toList
  writes : Text.Entity.Written violation.message.toList written.toList
  sourceDotted : source.toList.all fun char => char.isAlphanum || char == '.' || char == '_'

namespace Entry

variable (entry : Entry)

def text : String :=
  " <error line=\"" ++ toString entry.violation.line ++ "\" column=\"" ++ toString entry.column ++
    "\" severity=\"" ++ entry.severity ++ "\" message=\"" ++ entry.written ++ "\" source=\"" ++
    entry.source ++ "\"/>"

theorem source_plain {char : Char} (ascii : char.toNat < 0x80)
    (other : char.isAlphanum = false ∧ char ≠ '.' ∧ char ≠ '_') :
    UInt8.ofNat char.toNat ∉ Bytes.ofString entry.source := by
  apply byte_not_mem ascii
  intro member
  have inside := List.all_eq_true.1 entry.sourceDotted char member
  simp [other] at inside

def record : Record where
  line := Bytes.ofString (toString entry.violation.line)
  column := Bytes.ofString (toString entry.column)
  severity := Bytes.ofString entry.severity
  message := Bytes.ofString entry.written
  source := Bytes.ofString entry.source
  lineRun := decimal_run _
  columnRun := decimal_run _
  severityRun := word_run entry.severityNonempty entry.severityWord
  messageUnquoted := @byte_not_mem _ '"' (by decide) (Text.Entity.quote_not_written entry.writes)
  messageOnLine := @byte_not_mem _ '\n' (by decide) fun member =>
    entry.messageOnLine (Text.Entity.line_feed_of_written entry.writes member)
  sourceUnquoted := @source_plain entry '"' (by decide) (by decide)
  sourceOnLine := @source_plain entry '\n' (by decide) (by decide)
  sourceUnspaced := @source_plain entry ' ' (by decide) (by decide)

theorem text_bytes : Bytes.ofString entry.text =
    Bytes.ofString " <error " ++ (entry.record.bytes ++ Bytes.ofString "/>") := by
  have opening : Bytes.ofString " <error line=\"" = Bytes.ofString " <error " ++ lineKey := by
    decide
  have source : Bytes.ofString "\" source=\"" = sourceKey ++ Bytes.ofString "=\"" := by decide
  have closing : Bytes.ofString "\"/>" = [0x22] ++ Bytes.ofString "/>" := by decide
  unfold text
  rw [of_string_append, of_string_append, of_string_append, of_string_append, of_string_append,
    of_string_append, of_string_append, of_string_append, of_string_append, of_string_append,
    opening, source, closing]
  simp only [Record.bytes, record, List.append_assoc]
  rfl

theorem text_on_line : 10 ∉ Bytes.ofString entry.text := by
  have opening : 10 ∉ Bytes.ofString " <error " := by decide
  have closing : 10 ∉ Bytes.ofString "/>" := by decide
  rw [text_bytes]
  simp [opening, closing, entry.record.bytes_on_line]

/-- The line of a violation yields its record. -/
theorem text_found :
    lastRead readRecord? (Bytes.ofString entry.text) = some entry.record.found := by
  have follows : Behind (Bytes.ofString "/>") := ⟨by decide, by decide⟩
  rw [text_bytes]
  exact last_read_behind (last_record_read entry.record follows) _

/-- And the record is read as the violation, whatever the fallback encoding is called. -/
theorem record_violation (fallback : String) :
    readViolation fallback entry.record.found = .ok entry.violation := by
  have line : lineNumber? entry.record.found.line = some entry.violation.line :=
    line_number_decimal entry.lineFits
  have message : Message.decode entry.record.found.message fallback = .ok entry.violation.message :=
    decode_written entry.writes fallback
  rw [readViolation, line]
  dsimp only
  rw [message]

end Entry

/-- A line of a report: that of a violation, or one without a message. -/
inductive Line where
  | reported (entry : Entry)
  | other (bytes : Bytes) (onLine : 10 ∉ bytes)
      (plain : ¬ Bytes.ofString "message=\"" <:+: bytes)

namespace Line

def bytes : Line → Bytes
  | .reported entry => Bytes.ofString entry.text
  | .other bytes _ _ => bytes

def violation? : Line → Option Violation
  | .reported entry => some entry.violation
  | .other _ _ _ => none

theorem bytes_on_line (line : Line) : 10 ∉ line.bytes := by
  cases line with
  | reported entry => exact entry.text_on_line
  | other bytes onLine plain => exact onLine

/-- Without the key of a message no record is found. -/
theorem no_record_without_message {bytes : Bytes}
    (plain : ¬ Bytes.ofString "message=\"" <:+: bytes) : lastRead readRecord? bytes = none := by
  rw [last_read_none_iff]
  intro place
  rw [Option.eq_none_iff_forall_ne_some]
  intro violation found
  obtain ⟨column, severity, rest, split⟩ := record_sound found
  have key : messageKey = Bytes.ofString "\" " ++ Bytes.ofString "message=\"" := by decide
  refine plain (List.IsInfix.trans ?_ (List.drop_suffix place bytes).isInfix)
  refine ⟨lineKey ++ (violation.line ++ (columnKey ++ (column ++ (severityKey ++ (severity ++
    Bytes.ofString "\" "))))), violation.message ++ (sourceKey ++ rest), ?_⟩
  rw [split, key]
  simp only [List.append_assoc]

theorem read_back (line : Line) (fallback : String) :
    (lastRead readRecord? line.bytes).bind
      (fun found => (readViolation fallback found).toOption) = line.violation? := by
  cases line with
  | reported entry =>
      rw [bytes, entry.text_found, Option.bind_some, entry.record_violation]
      rfl
  | other bytes onLine plain =>
      rw [Line.bytes, no_record_without_message plain]
      rfl

end Line

/-- The bytes of a report, line by line. -/
def reportBytes (lines : List Line) : Bytes := [10].intercalate (lines.map Line.bytes)

theorem report_lines {lines : List Line} (nonempty : lines ≠ []) :
    (reportBytes lines).splitOn 10 = lines.map Line.bytes := by
  refine List.splitOn_intercalate 10 (fun bytes member => ?_) (by simpa using nonempty)
  obtain ⟨line, -, rfl⟩ := List.mem_map.1 member
  exact line.bytes_on_line

/-- From a report its violations are read back in their order, and nothing else. -/
theorem report_read_back (settings : Settings) (fallback : String) (lines : List Line) :
    parse settings (reportBytes lines) fallback .sniffer = lines.filterMap Line.violation? := by
  have parsed : parse settings (reportBytes lines) fallback .sniffer =
      ((reportBytes lines).splitOn 10).filterMap fun line =>
        (lastRead readRecord? line).bind fun found => (readViolation fallback found).toOption := by
    have found : rawViolations settings (reportBytes lines) .sniffer =
        readLines readRecord? (reportBytes lines) := every_record _
    rw [parse, readAll, found, readLines, List.filterMap_map, List.filterMap_filterMap]
    rfl
  rw [parsed]
  cases lines with
  | nil => rfl
  | cons line rest =>
      rw [report_lines (List.cons_ne_nil _ _), List.filterMap_map]
      exact List.filterMap_congr fun line _ => line.read_back fallback

/-- A message of a quote and an ampersand, each behind an apostrophe. -/
def escapedEntry : Entry where
  violation := ⟨7, "'\"'&"⟩
  column := 0
  severity := "error"
  written := "'&quot;&#039;&amp;"
  source := "Some.Rule_1"
  lineFits := by decide
  severityNonempty := by decide
  severityWord := by decide
  messageOnLine := by decide
  writes :=
    @Text.Entity.Written.cons '\'' ['\''] _ _ (by decide)
      (@Text.Entity.Written.cons '"' ['&', 'q', 'u', 'o', 't', ';'] _ _ (by decide)
        (@Text.Entity.Written.cons '\'' ['&', '#', '0', '3', '9', ';'] _ _ (by decide)
          (@Text.Entity.Written.cons '&' ['&', 'a', 'm', 'p', ';'] _ _ (by decide) .nil)))
  sourceDotted := by decide

theorem tag_plain : ¬ Bytes.ofString "message=\"" <:+: Bytes.ofString "<checkstyle>" := by
  have key : Bytes.ofString "message=\"" = 0x6D :: Bytes.ofString "essage=\"" := rfl
  rw [key, ← List.append_nil (Bytes.ofString "<checkstyle>"), infix_pass (by decide)]
  exact fun inside => List.cons_ne_nil _ _ (List.infix_nil.1 inside)

theorem escaped_entry_read_back :
    parse Settings.default
        (reportBytes [.other (Bytes.ofString "<checkstyle>") (by decide) tag_plain,
          .reported escapedEntry]) "no encoding" .sniffer = [⟨7, "'\"'&"⟩] :=
  report_read_back Settings.default "no encoding" _

end Checkup.ToolOutput.Checkstyle
