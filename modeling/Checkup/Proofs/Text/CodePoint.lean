import Checkup.Proofs.Text.Numeral
import Checkup.Proofs.Text.ReferenceScan
import Mathlib.Data.List.Basic
import Mathlib.Data.Nat.Digits.Defs
import Mathlib.Tactic.Ring

/-!
# References by number

A reference can give the code point of its character by digits. The digits are read onto a word of
32 bits, which is given up where it would overflow; but a number beyond the word is beyond all
characters too. So a character is found exactly if the number that the digits write, however many
they are, is its code point.
-/

namespace Checkup.Text.Entity

/-- The digits of the bases up to sixteen, each at the place of its value. -/
def digitChars : List Char :=
  ['0', '1', '2', '3', '4', '5', '6', '7', '8', '9', 'a', 'b', 'c', 'd', 'e', 'f']

/-- The value of a digit. A letter counts in either case. -/
def digitIndex (char : Char) : Nat := digitChars.idxOf char.toLower

/-- At least one digit, all of them digits of the base, and the number that they write. -/
structure Writes (base : Nat) (digits : List Char) (number : Nat) : Prop where
  nonempty : digits ≠ []
  inBase : ∀ char ∈ digits, char.toLower ∈ digitChars.take base
  value : number = Nat.ofDigits base (digits.reverse.map digitIndex)

/-- What may stand behind the number sign of a body, and the number that it writes. -/
inductive Numbers : List Char → Nat → Prop
  | decimal {digits : List Char} {number : Nat} (writes : Writes 10 digits number) :
      Numbers digits number
  | hexadecimal {mark : Char} {digits : List Char} {number : Nat} (marked : mark = 'x' ∨ mark = 'X')
      (writes : Writes 16 digits number) : Numbers (mark :: digits) number

/-- The code points of characters: up to the last one, and without the surrogates. -/
def IsScalar (code : Nat) : Prop := code ≤ 0x10FFFF ∧ ¬ (0xD800 ≤ code ∧ code ≤ 0xDFFF)

/-! ## Exact numbers -/

theorem digit_value_iff {char : Char} {digit : Nat} :
    digitValue? char = some digit ↔ char.toLower ∈ digitChars ∧ digitIndex char = digit := by
  constructor
  · intro found
    have bounds : 48 ≤ char.toNat ∧ char.toNat ≤ 57 ∨ 97 ≤ char.toNat ∧ char.toNat ≤ 102 ∨
        65 ≤ char.toNat ∧ char.toNat ≤ 70 := by
      unfold digitValue? at found
      split at found
      · rename_i decimal
        exact .inl ⟨UInt32.le_iff_toNat_le.1 decimal.1, UInt32.le_iff_toNat_le.1 decimal.2⟩
      split at found
      · rename_i lower
        exact .inr (.inl ⟨UInt32.le_iff_toNat_le.1 lower.1, UInt32.le_iff_toNat_le.1 lower.2⟩)
      split at found
      · rename_i upper
        exact .inr (.inr ⟨UInt32.le_iff_toNat_le.1 upper.1, UInt32.le_iff_toNat_le.1 upper.2⟩)
      · cases found
    rw [← Char.ofNat_toNat char] at found ⊢
    generalize char.toNat = code at bounds found
    rcases bounds with ⟨low, high⟩ | ⟨low, high⟩ | ⟨low, high⟩ <;> interval_cases code <;>
      cases found <;> decide
  · rintro ⟨member, rfl⟩
    have each : digitChars.all fun lower =>
        decide (digitValue? lower = some (digitChars.idxOf lower)) := by
      decide
    rw [← digit_value_to_lower]
    exact of_decide_eq_true (List.all_eq_true.1 each _ member)

/-- Digits behind a value that is already read. -/
theorem read_digits_iff {base value number : Nat} {digits : List Char} :
    readDigits base value digits = some number ↔
      (∀ char ∈ digits, char.toLower ∈ digitChars.take base) ∧
        number = value * base ^ digits.length + Nat.ofDigits base (digits.reverse.map digitIndex) := by
  induction digits generalizing value with
  | nil => simp [readDigits, eq_comm]
  | cons char rest ih =>
      have place : Nat.ofDigits base ((char :: rest).reverse.map digitIndex) =
          Nat.ofDigits base (rest.reverse.map digitIndex) +
            base ^ rest.length * digitIndex char := by
        rw [List.reverse_cons, List.map_append, Nat.ofDigits_append, List.length_map,
          List.length_reverse, List.map_singleton, Nat.ofDigits_singleton]
      have moved : value * base ^ (char :: rest).length +
          Nat.ofDigits base ((char :: rest).reverse.map digitIndex) =
            (value * base + digitIndex char) * base ^ rest.length +
              Nat.ofDigits base (rest.reverse.map digitIndex) := by
        rw [place, List.length_cons]
        ring
      rw [moved, List.forall_mem_cons, readDigits]
      by_cases member : char.toLower ∈ digitChars
      · rw [digit_value_iff.2 ⟨member, rfl⟩, List.mem_take_iff_idxOf_lt member]
        dsimp only
        by_cases small : digitIndex char < base
        · rw [if_pos small, ih, and_assoc]
          exact (and_iff_right small).symm
        · rw [if_neg small]
          constructor
          · intro failed
            cases failed
          · rintro ⟨⟨own, -⟩, -⟩
            exact absurd own small
      · have missing : digitValue? char = none :=
          Option.eq_none_iff_forall_ne_some.2 fun digit found => member (digit_value_iff.1 found).1
        rw [missing]
        constructor
        · intro failed
          cases failed
        · rintro ⟨⟨own, -⟩, -⟩
          exact absurd (List.mem_of_mem_take own) member

theorem number_iff {base number : Nat} {digits : List Char} :
    number? base digits = some number ↔ Writes base digits number := by
  unfold number?
  split
  · rename_i empty
    constructor
    · intro failed
      cases failed
    · intro writes
      exact absurd (List.isEmpty_iff.1 empty) writes.nonempty
  · rename_i something
    rw [read_digits_iff, Nat.zero_mul, Nat.zero_add]
    constructor
    · rintro ⟨inBase, value⟩
      exact ⟨fun empty => something (List.isEmpty_iff.2 empty), inBase, value⟩
    · intro writes
      exact ⟨writes.inBase, writes.value⟩

/-! ## Words -/

theorem read_digits_grow {base value number : Nat} (positive : 0 < base) {digits : List Char}
    (read : readDigits base value digits = some number) : value ≤ number := by
  induction digits generalizing value with
  | nil => exact Nat.le_of_eq (Option.some.inj read)
  | cons char rest ih =>
      rw [readDigits] at read
      split at read
      · split at read
        · have grown := ih read
          have least := Nat.le_mul_of_pos_right value positive
          omega
        · cases read
      · cases read

/-- A word that would overflow is given up only if the whole number does not fit either. -/
theorem read_code_exact {base value : Nat} (positive : 0 < base) (inside : value < codeLimit)
    (digits : List Char) :
    readCode base value digits = (readDigits base value digits).filter (· < codeLimit) := by
  induction digits generalizing value with
  | nil =>
      rw [readCode, readDigits, Option.filter_some, if_pos (by simpa using inside)]
  | cons char rest ih =>
      rw [readCode, readDigits]
      cases digitValue? char with
      | none => rfl
      | some digit =>
          dsimp only
          by_cases small : digit < base
          · by_cases fits : value * base + digit < codeLimit
            · rw [if_pos ⟨small, fits⟩, if_pos small, ih fits]
            · rw [if_neg fun both => fits both.2, if_pos small, eq_comm, Option.filter_eq_none_iff]
              intro number read
              have grown := read_digits_grow positive read
              simp only [decide_eq_true_eq]
              omega
          · rw [if_neg fun both => small both.1, if_neg small]
            rfl

theorem code_exact {base : Nat} (positive : 0 < base) {written : List Char}
    (unsigned : '+' ∉ written) :
    code? base written = (number? base written).filter (· < codeLimit) := by
  have first : written.head? ≠ some '+' := fun signed => unsigned (List.mem_of_mem_head? signed)
  unfold code? number?
  dsimp only
  rw [if_neg first]
  split
  · rfl
  · exact read_code_exact positive (by decide) written

/-! ## Characters -/

theorem is_scalar_iff {code : Nat} : IsScalar code ↔ code.isValidChar := by
  unfold IsScalar Nat.isValidChar
  omega

theorem char_of_code_iff {code : Nat} {char : Char} :
    charOfCode? code = some char ↔ code ≠ 0 ∧ IsScalar code ∧ char.toNat = code := by
  unfold charOfCode?
  by_cases valid : code.isValidChar
  · rw [dif_pos valid]
    by_cases zero : code = 0
    · rw [if_pos zero]
      constructor
      · intro failed
        cases failed
      · rintro ⟨positive, -⟩
        exact absurd zero positive
    · rw [if_neg zero, Option.some.injEq, ← Char.toNat_inj]
      constructor
      · intro same
        exact ⟨zero, is_scalar_iff.2 valid, same.symm⟩
      · rintro ⟨-, -, same⟩
        exact same.symm
  · rw [dif_neg valid]
    constructor
    · intro failed
      cases failed
    · rintro ⟨-, scalar, -⟩
      exact absurd (is_scalar_iff.1 scalar) valid

/-- A number that does not fit the word is no code point. -/
theorem char_of_fitting (number : Option Nat) :
    (number.filter (· < codeLimit)).bind charOfCode? = number.bind charOfCode? := by
  cases number with
  | none => rfl
  | some code =>
      rw [Option.filter_some]
      split
      · rfl
      · rename_i large
        refine (Option.eq_none_iff_forall_ne_some.2 fun char found => ?_).symm
        have scalar := (char_of_code_iff.1 found).2.1
        have beyond : ¬ code < codeLimit := by simpa using large
        unfold IsScalar at scalar
        unfold codeLimit at beyond
        omega

/-! ## Bodies -/

/-- The exact number behind the number sign of a body. -/
def numeral? : List Char → Option Nat
  | 'x' :: digits => number? 16 digits
  | 'X' :: digits => number? 16 digits
  | digits => number? 10 digits

theorem numeral_iff {written : List Char} {number : Nat} :
    numeral? written = some number ↔ Numbers written number := by
  constructor
  · intro read
    unfold numeral? at read
    split at read
    · exact .hexadecimal (.inl rfl) (number_iff.1 read)
    · exact .hexadecimal (.inr rfl) (number_iff.1 read)
    · exact .decimal (number_iff.1 read)
  · intro numbers
    cases numbers with
    | decimal writes =>
        have unmarked {mark : Char} {digits : List Char} (same : written = mark :: digits) :
            mark.toLower ∈ digitChars.take 10 := by
          apply writes.inBase
          rw [same]
          exact List.mem_cons_self
        unfold numeral?
        split
        · exact absurd (unmarked rfl) (by decide)
        · exact absurd (unmarked rfl) (by decide)
        · exact number_iff.2 writes
    | hexadecimal marked writes =>
        rcases marked with rfl | rfl
        all_goals exact number_iff.2 writes

/-- A body without a sign is resolved as the exact number says. -/
theorem resolve_numeral {written : List Char} (unsigned : '+' ∉ written) :
    resolve? ('#' :: written) = ((numeral? written).bind charOfCode?).map ([·]) := by
  have exact {base : Nat} (positive : 0 < base) {digits : List Char} (unsigned : '+' ∉ digits) :
      (code? base digits).bind charOfCode? = (number? base digits).bind charOfCode? := by
    rw [code_exact positive unsigned, char_of_fitting]
  unfold numeral?
  split
  · rw [resolve?, exact (by decide) fun member => unsigned (List.mem_cons_of_mem _ member)]
  · rw [resolve?, exact (by decide) fun member => unsigned (List.mem_cons_of_mem _ member)]
  · rename_i lower upper
    rw [← exact (by decide) unsigned]
    unfold resolve?
    split
    · rename_i digits same
      exact absurd (List.cons.inj same).2 (lower digits)
    · rename_i digits same
      exact absurd (List.cons.inj same).2 (upper digits)
    · rename_i same
      rw [(List.cons.inj same).2]
    · rename_i plain
      exact absurd rfl (plain written)

theorem alphanumeric_of_numbers {written : List Char} {number : Nat}
    (numbers : Numbers written number) : ∀ char ∈ written, char.isAlphanum = true := by
  cases numbers with
  | decimal writes => exact alphanumeric_of_number (number_iff.2 writes)
  | hexadecimal marked writes =>
      refine List.forall_mem_cons.2 ⟨?_, alphanumeric_of_number (number_iff.2 writes)⟩
      rcases marked with rfl | rfl <;> rfl

/-- A body that begins with a number sign stands for a character exactly if decimal digits, or `x`
or `X` and hexadecimal digits, are all that follows and the exact number that they write is the code
point of the character, which is not zero. No other number is taken for a code point, however many
digits it has, and nothing is read over that is no digit. -/
theorem code_point_of_number_iff {tail written rest : List Char}
    (accepted : splitBody? tail = some ('#' :: written, rest)) :
    (∀ value, resolve? ('#' :: written) = some value ↔
      ∃ number char, Numbers written number ∧ number ≠ 0 ∧ IsScalar number ∧
        char.toNat = number ∧ value = [char]) ∧
    (∀ number, Numbers written number → number = 0 ∨ ¬ IsScalar number →
      resolve? ('#' :: written) = none) ∧
    ∀ char ∈ written, char.isAlphanum = false → resolve? ('#' :: written) = none := by
  have isBody := (split_body_iff.1 accepted).2
  have unsigned : '+' ∉ written := fun member =>
    absurd (isBody.plain '+' (List.mem_cons_of_mem _ member)) (by decide)
  rw [resolve_numeral unsigned]
  refine ⟨fun value => ?_, fun number numbers unfit => ?_, fun char member foreign => ?_⟩
  · rw [Option.map_eq_some_iff]
    constructor
    · rintro ⟨char, found, rfl⟩
      obtain ⟨number, read, coded⟩ := Option.bind_eq_some_iff.1 found
      obtain ⟨positive, scalar, same⟩ := char_of_code_iff.1 coded
      exact ⟨number, char, numeral_iff.1 read, positive, scalar, same, rfl⟩
    · rintro ⟨number, char, numbers, positive, scalar, same, rfl⟩
      refine ⟨char, Option.bind_eq_some_iff.2 ⟨number, numeral_iff.2 numbers, ?_⟩, rfl⟩
      exact char_of_code_iff.2 ⟨positive, scalar, same⟩
  · rw [numeral_iff.2 numbers, Option.bind_some, Option.map_eq_none_iff,
      Option.eq_none_iff_forall_ne_some]
    intro char found
    obtain ⟨positive, scalar, -⟩ := char_of_code_iff.1 found
    exact unfit.elim positive fun unscalar => unscalar scalar
  · have unread : numeral? written = none := by
      refine Option.eq_none_iff_forall_ne_some.2 fun number read => ?_
      have plain := alphanumeric_of_numbers (numeral_iff.1 read) char member
      rw [foreign] at plain
      cases plain
    rw [unread]
    rfl

/-- The last character, with as many digits as a body can hold, and a number that a word of 32 bits
would take for the letter A. -/
theorem last_code_point_told :
    splitBody? "#X00000000000000000000000010fFfF;.".toList =
        some ('#' :: "X00000000000000000000000010fFfF".toList, ['.']) ∧
      resolve? ('#' :: "X00000000000000000000000010fFfF".toList) = some [Char.ofNat 0x10FFFF] ∧
      splitBody? "#4294967361;".toList = some ('#' :: "4294967361".toList, []) ∧
      resolve? ('#' :: "4294967361".toList) = none := by
  have last : splitBody? "#X00000000000000000000000010fFfF;.".toList =
      some ('#' :: "X00000000000000000000000010fFfF".toList, ['.']) := by decide +kernel
  have large : splitBody? "#4294967361;".toList = some ('#' :: "4294967361".toList, []) := by
    decide +kernel
  have writesLast : Numbers "X00000000000000000000000010fFfF".toList 0x10FFFF :=
    .hexadecimal (.inr rfl) (number_iff.1 (by decide +kernel))
  have writesLarge : Numbers "4294967361".toList 4294967361 :=
    .decimal (number_iff.1 (by decide +kernel))
  have scalar : IsScalar 0x10FFFF := by
    unfold IsScalar
    decide
  have unscalar : ¬ IsScalar 4294967361 := by
    unfold IsScalar
    decide
  exact ⟨last, ((code_point_of_number_iff last).1 _).2
      ⟨_, _, writesLast, by decide, scalar, by decide, rfl⟩,
    large, (code_point_of_number_iff large).2.1 _ writesLarge (.inr unscalar)⟩

end Checkup.Text.Entity
