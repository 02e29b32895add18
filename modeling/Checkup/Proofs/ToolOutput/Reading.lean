import Checkup.Proofs.Pattern.Pieces
import Checkup.Proofs.Text.Entity
import Checkup.Proofs.Text.Utf8
import Mathlib.Data.Nat.Digits.Defs

/-!
# Reading a match back

A run of digits is read as the number that it denotes, if that fits a word: a line that is written
in decimal is read as that line. A message that is escaped and written in UTF-8 is read as that
message, whatever the fallback encoding is called.
-/

namespace Checkup.ToolOutput

open Pattern

theorem of_string_append (front rest : String) :
    Bytes.ofString (front ++ rest) = Bytes.ofString front ++ Bytes.ofString rest := by
  rw [Bytes.ofString, String.toList_append, Text.Utf8.encode_append]
  rfl

/-- A byte of one's own does not stand in the bytes of a text without its character. -/
theorem byte_not_mem {text : String} {char : Char} (ascii : char.toNat < 0x80)
    (missing : char ∉ text.toList) : UInt8.ofNat char.toNat ∉ Bytes.ofString text :=
  fun member => missing (Text.Utf8.mem_of_mem_encode ascii member)

/-- A text of characters that are bytes of a set is a run of that set. -/
theorem run_of_chars {set : Ranges} {text : String} (nonempty : text ≠ "")
    (members : ∀ char ∈ text.toList, char.toNat < 0x80 ∧ set.contains char.toNat = true) :
    Run set (Bytes.ofString text) := by
  have bytes : Bytes.ofString text = text.toList.map fun char => UInt8.ofNat char.toNat :=
    Text.Utf8.encode_ascii fun char member => (members char member).1
  refine ⟨?_, fun byte member => ?_⟩
  · rw [bytes]
    simpa using nonempty
  · rw [bytes] at member
    obtain ⟨char, inText, rfl⟩ := List.mem_map.1 member
    obtain ⟨ascii, inSet⟩ := members char inText
    have value : (UInt8.ofNat char.toNat).toNat = char.toNat :=
      UInt8.toNat_ofNat_of_lt' (by rw [UInt8.size]; omega)
    rw [value]
    exact inSet

theorem alphanumeric_word {char : Char} (alphanumeric : char.isAlphanum = true) :
    char.toNat < 0x80 ∧ wordByte.contains char.toNat = true := by
  have bounds := Text.Entity.alphanumeric_bounds alphanumeric
  simp [Ranges.contains, wordByte]
  omega

theorem word_run {word : String} (nonempty : word ≠ "")
    (inWord : (word.toList.all fun char => char.isAlphanum || char == '_') = true) :
    Run wordByte (Bytes.ofString word) := by
  apply run_of_chars nonempty
  intro char member
  rcases Bool.or_eq_true_iff.1 (List.all_eq_true.1 inWord char member) with letter | underscore
  · exact alphanumeric_word letter
  · cases eq_of_beq underscore
    decide

/-! ## Lines -/

theorem decimal_digits (line : Nat) : ∀ char ∈ (toString line).toList, char.isDigit = true := by
  intro char member
  have text : (toString line).toList = Nat.toDigits 10 line := Nat.toList_repr
  rw [text] at member
  exact Nat.isDigit_of_mem_toDigits (by decide) (by decide) member

theorem decimal_run (line : Nat) : Run digit (Bytes.ofString (toString line)) := by
  apply run_of_chars Nat.repr_ne_empty
  intro char member
  have bounds := Char.isDigit_iff_toNat.1 (decimal_digits line char member)
  simp [Ranges.contains, digit] at bounds ⊢
  omega

theorem read_digits {digits : List Char} (areDigits : ∀ char ∈ digits, char.isDigit = true)
    (value : Nat) :
    readDigits? value (Text.Utf8.encode digits) = some (Nat.ofDigitChars 10 digits value) := by
  induction digits generalizing value with
  | nil => rfl
  | cons char rest ih =>
      have bounds := Char.isDigit_iff_toNat.1 (areDigits char List.mem_cons_self)
      simp at bounds
      have code : (UInt8.ofNat char.toNat).toNat = char.toNat :=
        UInt8.toNat_ofNat_of_lt' (by rw [UInt8.size]; omega)
      have bytes : Text.Utf8.encode (char :: rest) =
          UInt8.ofNat char.toNat :: Text.Utf8.encode rest := by
        have small : Text.Utf8.encodeChar char = [UInt8.ofNat char.toNat] := if_pos (by omega)
        rw [Text.Utf8.encode, List.flatMap_cons, small]
        rfl
      have isDigit : 0x30 ≤ UInt8.ofNat char.toNat ∧ UInt8.ofNat char.toNat ≤ 0x39 := by
        rw [UInt8.le_iff_toNat_le, UInt8.le_iff_toNat_le, code]
        exact bounds
      rw [bytes, readDigits?, if_pos isDigit, code,
        ih fun other member => areDigits other (List.mem_cons_of_mem _ member),
        Nat.ofDigitChars_cons, Nat.mul_comm]
      rfl

/-- The number that decimal digits denote, the highest digit first. -/
def decimal (digits : Bytes) : Nat :=
  Nat.ofDigits 10 (digits.reverse.map fun byte => byte.toNat - 0x30)

theorem decimal_cons (byte : UInt8) (rest : Bytes) :
    decimal (byte :: rest) = 10 ^ rest.length * (byte.toNat - 0x30) + decimal rest := by
  rw [decimal, List.reverse_cons, List.map_append, Nat.ofDigits_append, List.map_singleton,
    Nat.ofDigits_singleton, List.length_map, List.length_reverse, Nat.add_comm]
  rfl

theorem read_digits_decimal {digits : Bytes}
    (areDigits : ∀ byte ∈ digits, digit.contains byte.toNat = true) (value : Nat) :
    readDigits? value digits = some (10 ^ digits.length * value + decimal digits) := by
  induction digits generalizing value with
  | nil => simp [readDigits?, decimal]
  | cons byte rest ih =>
      have isDigit : 0x30 ≤ byte ∧ byte ≤ 0x39 := by
        have inSet := areDigits byte List.mem_cons_self
        rw [UInt8.le_iff_toNat_le, UInt8.le_iff_toNat_le]
        simpa [Ranges.contains, digit] using inSet
      rw [readDigits?, if_pos isDigit,
        ih (fun other member => areDigits other (List.mem_cons_of_mem _ member)), decimal_cons,
        List.length_cons, Nat.pow_succ]
      congr 1
      ring

theorem digits_unsigned {digits : Bytes} (isRun : Run digit digits) :
    ¬ digits.head? = some 0x2B := fun first =>
  isRun.not_mem (by decide) (List.mem_of_head? first)

/-- A run of digits is read as its number, unless that fits no word. -/
theorem line_number_run {digits : Bytes} (isRun : Run digit digits) :
    lineNumber? digits = if decimal digits < wordLimit then some (decimal digits) else none := by
  have some : ¬ digits.isEmpty = true := fun empty => isRun.nonempty (List.isEmpty_iff.1 empty)
  rw [lineNumber?, if_neg (digits_unsigned isRun), if_neg some, read_digits_decimal isRun.members]
  simp [Option.filter]

theorem decimal_line (line : Nat) : decimal (Bytes.ofString (toString line)) = line := by
  have text : (toString line).toList = Nat.toDigits 10 line := Nat.toList_repr
  have value : Nat.ofDigitChars 10 (toString line).toList 0 = line := by
    rw [text, Nat.ofDigitChars_ten_toDigits]
  have read : readDigits? 0 (Bytes.ofString (toString line)) = some line := by
    rw [Bytes.ofString, read_digits (decimal_digits line), value]
  rw [read_digits_decimal (decimal_run line).members] at read
  simpa using read

/-- A line that fits a word is read back from its decimal form. -/
theorem line_number_decimal {line : Nat} (fits : line < wordLimit) :
    lineNumber? (Bytes.ofString (toString line)) = some line := by
  rw [line_number_run (decimal_run line), decimal_line, if_pos fits]

/-! ## Messages -/

theorem decode_written {message written : String}
    (writes : Text.Entity.Written message.toList written.toList) (fallback : String) :
    Message.decode (Bytes.ofString written) fallback = .ok message := by
  have text : Message.decodeText (Bytes.ofString written) fallback = .ok written.toList := by
    rw [Message.decodeText, Bytes.ofString, Text.Utf8.decode_encode]
  rw [Message.decode, text]
  change Except.ok (String.ofList (Text.Entity.unescapeChars written.toList)) = .ok message
  rw [Text.Entity.unescape_written writes, String.ofList_toList]

end Checkup.ToolOutput
