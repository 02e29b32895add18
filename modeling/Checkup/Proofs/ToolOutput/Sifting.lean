import Checkup.Proofs.Message
import Checkup.Proofs.ToolOutput.Reading

/-!
# What is left of the matches

Each match in the output of a tool is read on its own. It is lost exactly if its line is no number
of a word or its message is text neither in UTF-8 nor in the fallback encoding; the others are left
in their order. Every byte is a character of the default encoding, so with that one no message is
lost.
-/

namespace Checkup.ToolOutput

open Message (ReadsAs Unreadable)
open Pattern
open Text.Utf8 (encode)

/-! ## Lines -/

/-- The digits of a line, with or without a plus sign before them. The line fits a word. -/
def WritesLine (bytes : Bytes) (line : Nat) : Prop :=
  ∃ digits, (bytes = digits ∨ bytes = 0x2B :: digits) ∧ Run digit digits ∧
    line = decimal digits ∧ line < wordLimit

theorem digits_of_read {value line : Nat} {digits : Bytes}
    (read : readDigits? value digits = some line) :
    ∀ byte ∈ digits, digit.contains byte.toNat = true := by
  induction digits generalizing value with
  | nil => exact fun _ member => nomatch member
  | cons byte rest ih =>
      rw [readDigits?] at read
      split at read
      · rename_i isDigit
        rw [UInt8.le_iff_toNat_le, UInt8.le_iff_toNat_le] at isDigit
        refine List.forall_mem_cons.2 ⟨?_, ih read⟩
        simpa [Ranges.contains, digit] using isDigit
      · cases read

theorem read_line_iff {digits : Bytes} {line : Nat} :
    (if digits.isEmpty then none else (readDigits? 0 digits).filter (· < wordLimit)) = some line ↔
      Run digit digits ∧ line = decimal digits ∧ line < wordLimit := by
  by_cases empty : digits.isEmpty = true
  · rw [if_pos empty]
    constructor
    · intro missing
      cases missing
    · rintro ⟨isRun, -⟩
      exact absurd (List.isEmpty_iff.1 empty) isRun.nonempty
  · rw [if_neg empty, Option.filter_eq_some_iff, decide_eq_true_eq]
    have nonempty : digits ≠ [] := fun same => empty (List.isEmpty_iff.2 same)
    constructor
    · rintro ⟨read, fits⟩
      have members := digits_of_read read
      rw [read_digits_decimal members, Nat.mul_zero, Nat.zero_add, Option.some.injEq] at read
      exact ⟨⟨nonempty, members⟩, read.symm, fits⟩
    · rintro ⟨isRun, rfl, fits⟩
      refine ⟨?_, fits⟩
      rw [read_digits_decimal isRun.members, Nat.mul_zero, Nat.zero_add]

theorem line_number_iff {bytes : Bytes} {line : Nat} :
    lineNumber? bytes = some line ↔ WritesLine bytes line := by
  unfold lineNumber?
  dsimp only
  rw [read_line_iff]
  constructor
  · rintro ⟨isRun, value, fits⟩
    refine ⟨_, ?_, isRun, value, fits⟩
    split
    · rename_i signed
      cases bytes with
      | nil => cases signed
      | cons byte rest => exact .inr (congrArg (· :: rest) (Option.some.inj signed))
    · exact .inl rfl
  · rintro ⟨digits, rfl | rfl, isRun, value, fits⟩
    · rw [if_neg (digits_unsigned isRun)]
      exact ⟨isRun, value, fits⟩
    · exact ⟨isRun, value, fits⟩

/-! ## Matches -/

/-- What a match tells: its own line and its own message, references resolved. -/
structure Tells (label : String) (raw : RawViolation) (violation : Violation) : Prop where
  line : WritesLine raw.line violation.line
  message : ∃ text, ReadsAs label raw.message text ∧
    violation.message = String.ofList (Text.Entity.unescapeChars text)

/-- A match without a line, or with a message that cannot be read. -/
def Lost (label : String) (raw : RawViolation) : Prop :=
  (∀ line, ¬ WritesLine raw.line line) ∨ Unreadable label raw.message

/-- The matches in their order and the violations that are left of them. -/
inductive Sifted (label : String) : List RawViolation → List Violation → Prop
  | nil : Sifted label [] []
  | keep {raw : RawViolation} {raws : List RawViolation} {violation : Violation}
      {violations : List Violation} (tells : Tells label raw violation)
      (rest : Sifted label raws violations) : Sifted label (raw :: raws) (violation :: violations)
  | drop {raw : RawViolation} {raws : List RawViolation} {violations : List Violation}
      (lost : Lost label raw) (rest : Sifted label raws violations) :
      Sifted label (raw :: raws) violations

theorem tells_iff {label : String} {raw : RawViolation} {violation : Violation} :
    readViolation label raw = .ok violation ↔ Tells label raw violation := by
  unfold readViolation
  constructor
  · intro read
    split at read
    · cases read
    · rename_i line number
      split at read
      · rename_i message decoded
        cases read
        exact ⟨line_number_iff.1 number, Message.decode_iff.1 decoded⟩
      · cases read
  · rintro ⟨line, message⟩
    rw [line_number_iff.2 line, Message.decode_iff.2 message]

theorem lost_iff {label : String} {raw : RawViolation} :
    (∃ dropped, readViolation label raw = .error dropped) ↔ Lost label raw := by
  have lineless : (∀ line, ¬ WritesLine raw.line line) ↔ lineNumber? raw.line = none := by
    rw [Option.eq_none_iff_forall_ne_some]
    exact forall_congr' fun line => not_congr line_number_iff.symm
  rw [Lost, lineless, ← Message.undecodable_iff]
  unfold readViolation
  cases lineNumber? raw.line with
  | none => exact ⟨fun _ => .inl rfl, fun _ => ⟨_, rfl⟩⟩
  | some line =>
      cases Message.decode raw.message label with
      | ok message =>
          constructor
          · rintro ⟨_, read⟩
            cases read
          · rintro (missing | ⟨_, failed⟩)
            · cases missing
            · cases failed
      | error error => exact ⟨fun _ => .inr ⟨error, rfl⟩, fun _ => ⟨_, rfl⟩⟩

theorem lost_iff_nothing_told {label : String} {raw : RawViolation} :
    Lost label raw ↔ ¬ ∃ violation, Tells label raw violation := by
  rw [← lost_iff]
  cases read : readViolation label raw with
  | ok violation =>
      constructor
      · rintro ⟨_, failed⟩
        cases failed
      · exact fun nothing => absurd ⟨violation, tells_iff.1 read⟩ nothing
  | error dropped =>
      constructor
      · rintro - ⟨violation, tells⟩
        rw [tells_iff.2 tells] at read
        cases read
      · exact fun _ => ⟨dropped, rfl⟩

theorem Tells.unique {label : String} {raw : RawViolation} {violation other : Violation}
    (tells : Tells label raw violation) (tellsToo : Tells label raw other) : violation = other := by
  have read := tells_iff.2 tells
  rw [tells_iff.2 tellsToo] at read
  exact (Except.ok.inj read).symm

/-- A message in UTF-8 is the same under every label. -/
theorem Tells.relabelled {label : String} {raw : RawViolation} {violation : Violation}
    {text : List Char} (encoded : raw.message = encode text) (tells : Tells label raw violation)
    (other : String) : Tells other raw violation := by
  obtain ⟨line, read, reads, message⟩ := tells
  refine ⟨line, read, ?_, message⟩
  cases reads with
  | utf8 encoded => exact .utf8 encoded
  | fallback foreign named decoded => exact absurd encoded (foreign text)

theorem sifted_iff {label : String} {raws : List RawViolation} {violations : List Violation} :
    (raws.map (readViolation label)).filterMap Except.toOption = violations ↔
      Sifted label raws violations := by
  constructor
  · rintro rfl
    induction raws with
    | nil => exact .nil
    | cons raw rest ih =>
        cases read : readViolation label raw with
        | ok violation =>
            rw [List.map_cons, read]
            exact .keep (tells_iff.1 read) ih
        | error dropped =>
            rw [List.map_cons, read]
            exact .drop (lost_iff.1 ⟨dropped, read⟩) ih
  · intro sifted
    induction sifted with
    | nil => rfl
    | keep tells rest ih =>
        rw [List.map_cons, tells_iff.2 tells, ← ih]
        rfl
    | drop lost rest ih =>
        obtain ⟨dropped, read⟩ := lost_iff.2 lost
        rw [List.map_cons, read, ← ih]
        rfl

/-- The violations that are reported are what the matches tell, in their order, without the matches
that are lost: those without a line, and those with a message that neither UTF-8 nor the fallback
encoding reads. What a match tells is its own, and the fallback has no part in a message in UTF-8.
With the default encoding, by any of its labels, no message is lost. -/
theorem matches_lost_alone (settings : Settings) (raw : Bytes) (label : String)
    (analyzer : Analyzer) :
    (∀ violations, parse settings raw label analyzer = violations ↔
      Sifted label (rawViolations settings raw analyzer) violations) ∧
    (∀ found, Lost label found ↔ ¬ ∃ violation, Tells label found violation) ∧
    (∀ found violation other, Tells label found violation → Tells label found other →
      violation = other) ∧
    (∀ found text, found.message = encode text → ∀ other violation,
      Tells label found violation ↔ Tells other found violation) ∧
    (Encoding.LabelledAs label (.singleByte .windows1252) → ∀ found,
      Lost label found ↔ ∀ line, ¬ WritesLine found.line line) ∧
    Encoding.LabelledAs Settings.defaultFallback (.singleByte .windows1252) := by
  refine ⟨?sifted, ?lost, ?unique, ?relabelled, ?readable, ?default⟩
  case sifted => exact fun violations => sifted_iff
  case lost => exact fun found => lost_iff_nothing_told
  case unique => exact fun found violation other => Tells.unique
  case relabelled =>
    intro found text encoded other violation
    exact ⟨fun tells => tells.relabelled encoded other, fun tells => tells.relabelled encoded label⟩
  case readable =>
    intro labelled found
    have readable := Message.readable_in_windows_1252 labelled found.message
    exact ⟨fun lost => lost.resolve_right readable, .inl⟩
  case default => exact ⟨"windows-1252", by decide, by decide⟩

end Checkup.ToolOutput
