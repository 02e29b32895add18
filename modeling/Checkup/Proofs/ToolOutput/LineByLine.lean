import Checkup.Proofs.Pattern.LastPlace
import Checkup.Proofs.ToolOutput.Checkstyle
import Checkup.Proofs.ToolOutput.TextRow

/-!
# Reports line by line

The records of a checkstyle report and the rows of a text report, told without patterns. An output
is cut at its line feeds, and each line tells one violation at most: that of the last place on it
where a record or a mark begins. This holds of every output, whoever printed it.
-/

namespace Checkup.ToolOutput

open Pattern

namespace Checkstyle

/-- A record begins with its front and goes on to the key of a source. -/
def RecordBegins (text : Bytes) : Prop :=
  ∃ line front rest, Fronts line front ∧ text = front ++ rest ∧ sourceKey <:+: rest

/-- The violation of a record at a place of a line. Its message goes from the end of the front to
the last key of a source on the line. -/
def RecordTold (line : Bytes) (place : Nat) (violation : RawViolation) : Prop :=
  ∃ front stop, Fronts violation.line front ∧ front <+: line.drop place ∧
    LastPlace (sourceKey <+: ·) line stop ∧
    violation.message = (line.take stop).drop (place + front.length)

/-- The last key of a source behind a front is the last one on the line. -/
theorem message_on_line {line front rest : Bytes} {place : Nat}
    (split : line.drop place = front ++ rest) (message : Bytes) :
    beforeLast? sourceKey rest = some message ↔
      ∃ behind, LastPlace (sourceKey <+: ·) line (place + front.length + behind) ∧
        message = (line.take (place + front.length + behind)).drop (place + front.length) := by
  have remainder : rest = line.drop (place + front.length) := by
    rw [← List.drop_drop, split, List.drop_left]
  rw [before_last_iff (by decide), remainder]
  simp only [last_place_drop_iff, List.drop_take, Nat.add_sub_cancel_left]

theorem record_something {text : Bytes} (begun : RecordBegins text) :
    ∃ violation, readRecord? text = some violation := by
  obtain ⟨line, front, rest, fronts, rfl, source⟩ := begun
  obtain ⟨message, ends⟩ := before_last_something source
  exact ⟨⟨line, message⟩, by rw [read_front fronts, ends]; rfl⟩

theorem record_told_iff (line : Bytes) (place : Nat) (violation : RawViolation) :
    readRecord? (line.drop place) = some violation ↔
      RecordBegins (line.drop place) ∧ RecordTold line place violation := by
  constructor
  · intro found
    obtain ⟨front, rest, fronts, split, ends⟩ := front_read found
    obtain ⟨behind, last, message⟩ := (message_on_line split _).1 ends
    obtain ⟨after, source⟩ := before_last_sound ends
    refine ⟨⟨violation.line, front, rest, fronts, split, violation.message, after, ?_⟩,
      front, _, fronts, ⟨rest, split.symm⟩, last, message⟩
    rw [source, List.append_assoc]
  · rintro ⟨begun, front, stop, fronts, ⟨rest, split⟩, last, message⟩
    obtain ⟨other, found⟩ := record_something begun
    rw [← split, read_front fronts] at found ⊢
    obtain ⟨piece, ends, -⟩ := Option.map_eq_some_iff.1 found
    obtain ⟨behind, lastToo, same⟩ := (message_on_line split.symm piece).1 ends
    rw [last.unique lastToo, ← same] at message
    rw [ends, ← message]
    rfl

theorem record_attempts :
    Attempts RecordBegins RecordTold fun line place => readRecord? (line.drop place) where
  nonempty := by
    rintro ⟨line, front, rest, fronts, split, -⟩
    exact front_nonempty fronts (List.append_eq_nil_iff.1 split.symm).1
  found := record_told_iff
  something := by
    intro line place begun
    obtain ⟨violation, found⟩ := record_something begun
    exact ⟨violation, ((record_told_iff line place violation).1 found).2⟩

/-- The records that are found in an output are those that its lines tell. -/
theorem records_told_by_lines (raw : Bytes) (violations : List RawViolation) :
    every checkstyleRecord raw = violations ↔
      LinesTell RecordBegins RecordTold raw violations := by
  rw [every_record, record_attempts.lines_tell_iff]
  exact eq_comm

end Checkstyle

namespace TextRow

/-- A mark begins with a colon, which digits and a blank follow. -/
def MarkBegins (text : Bytes) : Prop :=
  ∃ digits space rest, Run digit digits ∧ blank.contains (UInt8.toNat space) = true ∧
    text = 0x3A :: (digits ++ (space :: rest))

/-- The violation of a mark at a place of a line: the digits behind the colon, and what follows all
the blanks behind these. -/
def RowTold (line : Bytes) (place : Nat) (violation : RawViolation) : Prop :=
  ∃ blanks, Run digit violation.line ∧ Run blank blanks ∧
    (∀ byte, violation.message.head? = some byte → blank.contains byte.toNat = false) ∧
    line.drop place = 0x3A :: (violation.line ++ (blanks ++ violation.message))

theorem mark_told {line : Bytes} {place : Nat} (begun : MarkBegins (line.drop place)) :
    ∃ violation, RowTold line place violation := by
  obtain ⟨digits, space, rest, digitsRun, isBlank, text⟩ := begun
  obtain ⟨blanks, message, spaces, blanksRun, unblank⟩ := run_split isBlank rest
  exact ⟨⟨digits, message⟩, blanks, digitsRun, blanksRun, unblank, by rw [text, spaces]⟩

theorem mark_of_row {line : Bytes} {place : Nat} {violation : RawViolation}
    (told : RowTold line place violation) : MarkBegins (line.drop place) := by
  obtain ⟨blanks, digitsRun, blanksRun, -, text⟩ := told
  cases blanks with
  | nil => exact absurd rfl blanksRun.nonempty
  | cons space blanks =>
      exact ⟨violation.line, space, blanks ++ violation.message, digitsRun,
        blanksRun.members space List.mem_cons_self, text⟩

theorem row_told_iff (line : Bytes) (place : Nat) (violation : RawViolation) :
    readRow? (line.drop place) = some violation ↔ RowTold line place violation := by
  constructor
  · intro found
    simp only [readRow?, Option.bind_eq_bind, Option.bind_eq_some_iff, drop_prefix_iff,
      Prod.exists] at found
    obtain ⟨_, text, digits, _, digitsRead, blanks, message, blanksRead, same⟩ := found
    cases same
    obtain ⟨digitsRun, rfl, -⟩ := run_iff.1 digitsRead
    obtain ⟨blanksRun, rfl, unblank⟩ := run_iff.1 blanksRead
    exact ⟨blanks, digitsRun, blanksRun, unblank, text⟩
  · rintro ⟨blanks, digitsRun, blanksRun, unblank, text⟩
    rw [text]
    exact row_read digitsRun blanksRun unblank

theorem row_attempts :
    Attempts MarkBegins RowTold fun line place => readRow? (line.drop place) where
  nonempty := by
    rintro ⟨digits, space, rest, -, -, split⟩
    cases split
  found line place violation := by
    rw [row_told_iff]
    exact ⟨fun told => ⟨mark_of_row told, told⟩, And.right⟩
  something _ _ := mark_told

/-- The rows that are found in an output are those that its lines tell. -/
theorem rows_told_by_lines (raw : Bytes) (violations : List RawViolation) :
    every textRow raw = violations ↔ LinesTell MarkBegins RowTold raw violations := by
  rw [every_row, row_attempts.lines_tell_iff]
  exact eq_comm

end TextRow

end Checkup.ToolOutput
