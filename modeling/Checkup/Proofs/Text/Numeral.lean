import Checkup.Text.Entity
import Mathlib.Tactic.IntervalCases

/-!
# Numerals

The digits that write a number in a base up to sixteen are read back as that number, whatever
zeros stand before them and in whichever case its letters are.
-/

namespace Checkup.Text.Entity

theorem digit_value_of_digit_char {digit : Nat} (small : digit < 16) :
    digitValue? digit.digitChar = some digit := by
  interval_cases digit <;> rfl

theorem read_digits_append (base value : Nat) (front rest : List Char) :
    readDigits base value (front ++ rest) =
      (readDigits base value front).bind fun read => readDigits base read rest := by
  induction front generalizing value with
  | nil => rfl
  | cons char front ih =>
      rw [List.cons_append, readDigits, readDigits]
      cases digitValue? char with
      | none => rfl
      | some digit =>
          dsimp only
          split
          · exact ih _
          · rfl

theorem read_digit {base digit : Nat} (small : digit < base) (high : base ≤ 16) (value : Nat) :
    readDigits base value [digit.digitChar] = some (value * base + digit) := by
  rw [readDigits, digit_value_of_digit_char (Nat.lt_of_lt_of_le small high)]
  exact if_pos small

theorem read_digits_to_digits {base : Nat} (low : 1 < base) (high : base ≤ 16) (number : Nat) :
    readDigits base 0 (Nat.toDigits base number) = some number := by
  induction number using Nat.strongRecOn with
  | ind number ih =>
      by_cases single : number < base
      · rw [Nat.toDigits_of_lt_base single, read_digit single high, Nat.zero_mul, Nat.zero_add]
      · have several := Nat.le_of_not_lt single
        have positive : 0 < base := Nat.lt_trans Nat.zero_lt_one low
        have smaller : number / base < number :=
          Nat.div_lt_self (Nat.lt_of_lt_of_le positive several) low
        rw [Nat.toDigits_of_base_le low several, read_digits_append, ih _ smaller,
          Option.bind_some, read_digit (Nat.mod_lt _ positive) high, Nat.div_add_mod']

theorem read_digits_zeros {base : Nat} (positive : 0 < base) (zeros : Nat) (digits : List Char) :
    readDigits base 0 (List.replicate zeros '0' ++ digits) = readDigits base 0 digits := by
  induction zeros with
  | zero => rfl
  | succ zeros ih =>
      have zero : digitValue? '0' = some 0 := rfl
      rw [List.replicate_succ, List.cons_append, readDigits, zero]
      dsimp only
      rw [if_pos positive, Nat.zero_mul, ih]

theorem digit_value_to_lower (char : Char) : digitValue? char.toLower = digitValue? char := by
  by_cases upper : char.val ≥ 'A'.val ∧ char.val ≤ 'Z'.val
  · have low : 65 ≤ char.toNat := UInt32.le_iff_toNat_le.1 upper.1
    have high : char.toNat ≤ 90 := UInt32.le_iff_toNat_le.1 upper.2
    rw [← Char.ofNat_toNat char]
    generalize char.toNat = code at low high
    interval_cases code <;> rfl
  · have kept : char.toLower = char := dif_neg upper
    rw [kept]

theorem read_digits_to_lower (base value : Nat) (digits : List Char) :
    readDigits base value (digits.map Char.toLower) = readDigits base value digits := by
  induction digits generalizing value with
  | nil => rfl
  | cons char rest ih =>
      rw [List.map_cons, readDigits, readDigits, digit_value_to_lower]
      cases digitValue? char with
      | none => rfl
      | some digit =>
          dsimp only
          rw [ih]

/-- A number is read back from its digits with zeros before them. -/
theorem number_written {base : Nat} (low : 1 < base) (high : base ≤ 16) (number zeros : Nat) :
    number? base (List.replicate zeros '0' ++ Nat.toDigits base number) = some number := by
  have nonempty : ¬ (List.replicate zeros '0' ++ Nat.toDigits base number).isEmpty = true :=
    fun empty => Nat.toDigits_ne_nil (List.append_eq_nil_iff.1 (List.isEmpty_iff.1 empty)).2
  rw [number?, if_neg nonempty, read_digits_zeros (Nat.lt_trans Nat.zero_lt_one low),
    read_digits_to_digits low high]

theorem number_to_lower (base : Nat) (digits : List Char) :
    number? base (digits.map Char.toLower) = number? base digits := by
  rw [number?, number?, List.isEmpty_map, read_digits_to_lower]

/-- Digits are ASCII letters or digits. -/
theorem alphanumeric_of_digit_value {char : Char} {digit : Nat}
    (found : digitValue? char = some digit) : char.isAlphanum = true := by
  have within {low high : Char} (above : low ≤ char) (below : char ≤ high) :
      (decide (char.val ≥ low.val) && decide (char.val ≤ high.val)) = true :=
    Bool.and_eq_true_iff.2 ⟨decide_eq_true above, decide_eq_true below⟩
  unfold digitValue? at found
  split at found
  · rename_i decimal
    exact Bool.or_eq_true_iff.2 (.inr (within decimal.1 decimal.2))
  split at found
  · rename_i lower
    have letter := within lower.1 (Char.le_trans lower.2 (show 'f' ≤ 'z' by decide))
    exact Bool.or_eq_true_iff.2 (.inl (Bool.or_eq_true_iff.2 (.inr letter)))
  split at found
  · rename_i upper
    have letter : char.isUpper = true :=
      decide_eq_true ⟨upper.1, Char.le_trans upper.2 (show 'F' ≤ 'Z' by decide)⟩
    exact Bool.or_eq_true_iff.2 (.inl (Bool.or_eq_true_iff.2 (.inl letter)))
  · cases found

theorem alphanumeric_of_read {base value number : Nat} {digits : List Char}
    (read : readDigits base value digits = some number) :
    ∀ char ∈ digits, char.isAlphanum = true := by
  induction digits generalizing value with
  | nil => exact fun _ member => nomatch member
  | cons first rest ih =>
      rw [readDigits] at read
      cases digit : digitValue? first with
      | none =>
          rw [digit] at read
          cases read
      | some digitValue =>
          rw [digit] at read
          dsimp only at read
          split at read
          · exact List.forall_mem_cons.2 ⟨alphanumeric_of_digit_value digit, ih read⟩
          · cases read

theorem alphanumeric_of_number {base number : Nat} {digits : List Char}
    (read : number? base digits = some number) : ∀ char ∈ digits, char.isAlphanum = true := by
  unfold number? at read
  split at read
  · cases read
  · exact alphanumeric_of_read read

end Checkup.Text.Entity
