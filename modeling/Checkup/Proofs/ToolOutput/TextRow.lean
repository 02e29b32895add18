import Checkup.Proofs.Pattern.Lines
import Checkup.Proofs.Pattern.Pieces

/-!
# Rows of a text report

On a line the pattern finds the last colon with digits and a blank behind it. Colons in the path
of a row do no harm, then, but a message that holds such a mark is cut there, and the digits in it
are taken for the line.
-/

namespace Checkup.ToolOutput.TextRow

open Pattern

/-! ## What the pattern reads -/

/-- The line and the message behind a colon at the start of a text. -/
def readRow? (text : Bytes) : Option RawViolation := do
  let text ← text.dropPrefix? (Bytes.ofString ":")
  let (line, text) ← run? digit text
  let (_, message) ← run? blank text
  return ⟨line, message⟩

theorem digits_unblank {byte : UInt8} (isDigit : digit.contains byte.toNat = true) :
    blank.contains byte.toNat = false := by
  simp [Ranges.contains, digit, blank] at isDigit ⊢
  omega

theorem blanks_undigit {byte : UInt8} (isBlank : blank.contains byte.toNat = true) :
    digit.contains byte.toNat = false := by
  rw [Bool.eq_false_iff]
  intro isDigit
  rw [digits_unblank isDigit] at isBlank
  cases isBlank

/-- What the pattern asks for behind the path. -/
def rowPieces : Node :=
  .concatAll [exact ":", .group 1 (many digit), many blank, .group 2 anything]

theorem row_pattern : textRow = .ofNode (.concat anything rowPieces) groupNames := rfl

theorem row_advances : rowPieces.Advances :=
  ⟨trivial, ⟨trivial, trivial⟩, ⟨trivial, trivial⟩, ⟨trivial, trivial⟩, trivial⟩

theorem row_consumes : rowPieces.Consumes := .inl trivial

def rowScan : Scan :=
  .exact (Bytes.ofString ":") (.many (some 1) digit (.many none blank (.anything (some 2) .done)))

theorem row_scan (text : Bytes) : rowScan text = (readRow? text).map violationGroups := by
  simp only [rowScan, scan_anything_done, scan_many_run]
  simp only [Scan.exact, readRow?, Option.bind_eq_bind, Option.map_eq_bind, Option.bind_assoc,
    Function.comp_def, Option.bind_some, Option.pure_def]
  rfl

theorem row_follows : Follows rowPieces fun line => (readRow? line).map violationGroups := by
  have scan : (fun line => (readRow? line).map violationGroups) = rowScan :=
    funext fun line => (row_scan line).symm
  rw [scan]
  have message : Follows (.group 2 anything) (.anything (some 2) .done) :=
    Follows.last (Follows.anything (some 2) .done)
  refine Follows.letters (by decide) (.many (some 1) (by decide) ?_ (.many none (by decide) ?_ ?_))
  · exact longest_many (fun _ isDigit => digits_unblank isDigit) _ _
  · intro back rest _ _ missing
    rw [scan_anything_done] at missing
    cases missing
  · exact message

/-- The pattern finds the last mark of each line. -/
theorem every_row (raw : Bytes) : every textRow raw = readLines readRow? raw := by
  rw [row_pattern]
  exact every_lines row_advances row_consumes row_follows raw

theorem parse_rows (settings : Settings) (raw : Bytes) (fallback : String) :
    parse settings raw fallback .messDetector =
      ((readLines readRow? raw).map (readViolation fallback)).filterMap Except.toOption := by
  rw [parse, readAll, rawViolations, every_row]

/-- What is read is behind a mark: a colon, digits and a blank. -/
theorem row_sound {text : Bytes} {violation : RawViolation}
    (found : readRow? text = some violation) :
    Run digit violation.line ∧ ∃ blanks, Run blank blanks ∧
      text = 0x3A :: (violation.line ++ (blanks ++ violation.message)) := by
  simp only [readRow?, Option.bind_eq_bind, Option.bind_eq_some_iff, drop_prefix_iff,
    Prod.exists] at found
  obtain ⟨_, rfl, line, _, lineRead, blanks, message, blanksRead, same⟩ := found
  cases same
  obtain ⟨lineRun, lineSplit⟩ := run_sound lineRead
  obtain ⟨blanksRun, blanksSplit⟩ := run_sound blanksRead
  exact ⟨lineRun, blanks, blanksRun, by rw [lineSplit, blanksSplit]; rfl⟩

/-- Nothing is read where there is no colon. -/
theorem last_row_pass {front : Bytes} (free : 0x3A ∉ front) (text : Bytes) :
    lastRead readRow? (front ++ text) = lastRead readRow? text := by
  apply last_read_pass
  intro byte member rest
  have other : ¬ Bytes.ofString ":" <+: byte :: rest := by
    intro begins
    have same : 0x3A = byte := (List.cons_prefix_cons.1 begins).1
    exact free (same ▸ member)
  rw [readRow?, (drop_prefix_none_iff _ _).2 other]
  rfl

/-- A mark, wherever it is in a text. -/
def Marked (text : Bytes) : Prop :=
  ∃ front line space rest, Run digit line ∧ blank.contains (UInt8.toNat space) = true ∧
    text = front ++ (0x3A :: (line ++ (space :: rest)))

theorem row_read {line blanks message : Bytes} (lineRun : Run digit line)
    (blanksRun : Run blank blanks)
    (unblank : ∀ byte, message.head? = some byte → blank.contains byte.toNat = false) :
    readRow? (0x3A :: (line ++ (blanks ++ message))) = some ⟨line, message⟩ := by
  have digits : run? digit (line ++ (blanks ++ message)) = some (line, blanks ++ message) := by
    refine run_read lineRun fun byte first => blanks_undigit (blanksRun.members byte ?_)
    rw [List.head?_append_of_ne_nil _ blanksRun.nonempty] at first
    exact List.mem_of_head? first
  have colon : 0x3A :: (line ++ (blanks ++ message)) =
      Bytes.ofString ":" ++ (line ++ (blanks ++ message)) := rfl
  rw [colon, readRow?]
  simp only [drop_prefix_append, Option.bind_eq_bind, Option.bind_some, digits,
    run_read blanksRun unblank]
  rfl

/-- Something is read on a line if and only if there is a mark on it. -/
theorem last_row_none_iff (line : Bytes) : lastRead readRow? line = none ↔ ¬ Marked line := by
  rw [last_read_none_iff]
  constructor
  · rintro nothing ⟨front, digits, space, rest, digitsRun, isBlank, split⟩
    obtain ⟨blanks, message, spaces, blanksRun, unblank⟩ := run_split isBlank rest
    have missing := nothing front.length
    rw [split, List.drop_left, spaces, row_read digitsRun blanksRun unblank] at missing
    cases missing
  · intro unmarked place
    rw [Option.eq_none_iff_forall_ne_some]
    intro violation found
    obtain ⟨digitsRun, blanks, blanksRun, split⟩ := row_sound found
    refine unmarked ⟨line.take place, violation.line, ?_⟩
    cases blanks with
    | nil => exact absurd rfl blanksRun.nonempty
    | cons space blanks =>
        refine ⟨space, blanks ++ violation.message, digitsRun,
          blanksRun.members space List.mem_cons_self, ?_⟩
        exact (List.take_append_drop place line).symm.trans (congrArg (line.take place ++ ·) split)

/-! ## Rows -/

structure Row where
  path : Bytes
  line : Bytes
  message : Bytes
  pathOnLine : 10 ∉ path
  lineRun : Run digit line
  messageOnLine : 10 ∉ message
  messageUnblank : (message.head?.all fun byte => !blank.contains byte.toNat) = true

namespace Row

variable (row : Row)

def text : Bytes := row.path ++ (0x3A :: (row.line ++ (0x09 :: row.message)))

def violation : RawViolation := ⟨row.line, row.message⟩

/-- What is read in a row: its message hides it behind a mark of its own. -/
def found : RawViolation := (lastRead readRow? row.message).getD row.violation

theorem text_on_line : 10 ∉ row.text := by
  have line : 10 ∉ row.line := row.lineRun.not_mem (by decide)
  simp [text, row.pathOnLine, line, row.messageOnLine]

theorem last_row_read : lastRead readRow? row.text = some row.found := by
  have tab : lastRead readRow? (0x09 :: row.message) = lastRead readRow? row.message :=
    @last_row_pass [0x09] (by decide) row.message
  have digits : 0x3A ∉ row.line := row.lineRun.not_mem (by decide)
  have tabRun : Run blank [0x09] := run_of_all (by decide) (by decide)
  have unblank : ∀ byte, row.message.head? = some byte → blank.contains byte.toNat = false := by
    intro byte first
    have stated := row.messageUnblank
    rw [first] at stated
    exact (Bool.not_eq_true' _).mp stated
  have here : readRow? (0x3A :: (row.line ++ (0x09 :: row.message))) = some row.violation :=
    row_read row.lineRun tabRun unblank
  refine last_read_behind ?_ row.path
  rw [last_read_cons, last_row_pass digits, tab, here, found]
  cases lastRead readRow? row.message <;> rfl

/-- What a message of a row hides it behind is no longer the row's own. -/
theorem found_eq_iff : row.found = row.violation ↔ ¬ Marked row.message := by
  rw [← last_row_none_iff, found]
  constructor
  · intro same
    cases hidden : lastRead readRow? row.message with
    | none => rfl
    | some other =>
        rw [hidden, Option.getD_some] at same
        obtain ⟨place, -, read, -⟩ := latest_some hidden
        obtain ⟨-, blanks, -, split⟩ := row_sound read
        have lengths := congrArg List.length split
        rw [same] at lengths
        simp [violation] at lengths
        omega
  · intro nothing
    rw [nothing, Option.getD_none]

end Row

/-- The rows of a report, each with its line feed. -/
def report (rows : List Row) : Bytes := rows.flatMap fun row => row.text ++ [10]

theorem rows_found (rows : List Row) : every textRow (report rows) = rows.map Row.found := by
  rw [every_row]
  induction rows with
  | nil => rfl
  | cons row rest ih =>
      have split : report (row :: rest) = row.text ++ 10 :: report rest := by simp [report]
      rw [split, read_lines_feed, read_lines_line row.text_on_line, row.last_row_read, ih]
      rfl

/-- Every row is read back if and only if no message holds a mark. -/
theorem rows_read_back_iff (rows : List Row) :
    every textRow (report rows) = rows.map Row.violation ↔
      ∀ row ∈ rows, ¬ Marked row.message := by
  rw [rows_found, List.map_inj_left]
  exact forall₂_congr fun row _ => row.found_eq_iff

def markedRow : Row where
  path := Bytes.ofString "a.php"
  line := Bytes.ofString "10"
  message := Bytes.ofString "see b:2 c"
  pathOnLine := by decide
  lineRun := run_of_all (by decide) (by decide)
  messageOnLine := by decide
  messageUnblank := by decide

theorem marked_row_misread :
    report [markedRow] = Bytes.ofString "a.php:10\tsee b:2 c\n" ∧
      markedRow.violation = ⟨Bytes.ofString "10", Bytes.ofString "see b:2 c"⟩ ∧
      every textRow (report [markedRow]) = [⟨Bytes.ofString "2", Bytes.ofString "c"⟩] := by
  refine ⟨by decide +kernel, rfl, ?_⟩
  rw [rows_found]
  decide +kernel

end Checkup.ToolOutput.TextRow
