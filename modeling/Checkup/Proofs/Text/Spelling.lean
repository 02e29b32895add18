import Checkup.Proofs.Text.CodePoint

/-!
# Spellings of a text

Markup can spell a character as itself, by the name of one of its own characters, or by the
decimal or hexadecimal digits of its code point. However each character of a text is spelled, the
text comes back: a reference is read whole, and what it stands for is not read again, so it cannot
begin a reference together with the spellings behind it.
-/

namespace Checkup.Text.Entity

/-- The characters of markup itself and their names. -/
def markupNames : List (Char × List Char) :=
  [('&', ['a', 'm', 'p']), ('<', ['l', 't']), ('>', ['g', 't']), ('"', ['q', 'u', 'o', 't'])]

/-- The bodies of references to a character. The character with code point zero has none; digits
have any number of zeros before them, and hexadecimal ones are in either case. -/
inductive Refers (char : Char) : List Char → Prop
  | named {name : List Char} (known : (char, name) ∈ markupNames) : Refers char name
  | decimal {digits : List Char} (zeros : Nat) (real : char ≠ '\x00')
      (written : digits = List.replicate zeros '0' ++ Nat.toDigits 10 char.toNat) :
      Refers char ('#' :: digits)
  | hexadecimal {mark : Char} {digits : List Char} (zeros : Nat) (real : char ≠ '\x00')
      (marked : mark = 'x' ∨ mark = 'X')
      (written : digits.map Char.toLower =
        List.replicate zeros '0' ++ Nat.toDigits 16 char.toNat) :
      Refers char ('#' :: mark :: digits)

/-- The spellings of a character. -/
inductive Spelling (char : Char) : List Char → Prop
  | raw (plain : char ≠ '&') : Spelling char [char]
  | reference {body : List Char} (refers : Refers char body) (short : body.length ≤ 32) :
      Spelling char ('&' :: (body ++ [';']))

/-- A text and what it is spelled as, character by character. -/
inductive Spelled : List Char → List Char → Prop
  | nil : Spelled [] []
  | cons {char : Char} {form text written : List Char} (spelling : Spelling char form)
      (rest : Spelled text written) : Spelled (char :: text) (form ++ written)

/-! ## Code points -/

theorem char_of_code {char : Char} (real : char ≠ '\x00') : charOfCode? char.toNat = some char :=
  char_of_code_iff.2 ⟨fun zero => real (Char.toNat_inj.1 zero), is_scalar_iff.2 char.valid, rfl⟩

theorem resolve_numbers {written : List Char} {number : Nat} (numbers : Numbers written number) :
    resolve? ('#' :: written) = (charOfCode? number).map ([·]) := by
  have unsigned : '+' ∉ written := fun member =>
    absurd (alphanumeric_of_numbers numbers '+' member) (by decide)
  rw [resolve_numeral unsigned, numeral_iff.2 numbers]
  rfl

theorem resolve_decimal {number : Nat} {digits : List Char}
    (read : number? 10 digits = some number) :
    resolve? ('#' :: digits) = (charOfCode? number).map ([·]) :=
  resolve_numbers (.decimal (number_iff.1 read))

theorem resolve_hexadecimal {number : Nat} {mark : Char} (marked : mark = 'x' ∨ mark = 'X')
    {digits : List Char} (read : number? 16 digits = some number) :
    resolve? ('#' :: mark :: digits) = (charOfCode? number).map ([·]) :=
  resolve_numbers (.hexadecimal marked (number_iff.1 read))

/-! ## References -/

theorem Refers.resolved {char : Char} {body : List Char} (refers : Refers char body) :
    resolve? body = some [char] := by
  cases refers with
  | named known =>
      simp only [markupNames, List.mem_cons, Prod.mk.injEq, List.not_mem_nil, or_false] at known
      rcases known with ⟨rfl, rfl⟩ | ⟨rfl, rfl⟩ | ⟨rfl, rfl⟩ | ⟨rfl, rfl⟩ <;> rfl
  | decimal zeros real written =>
      rw [written, resolve_decimal (number_written (show 1 < 10 by decide) (by decide) _ zeros),
        char_of_code real]
      rfl
  | hexadecimal zeros real marked written =>
      have read := number_written (show 1 < 16 by decide) (by decide) char.toNat zeros
      rw [← written, number_to_lower] at read
      rw [resolve_hexadecimal marked read, char_of_code real]
      rfl

theorem Refers.isBody {char : Char} {body : List Char} (refers : Refers char body)
    (short : body.length ≤ 32) : IsBody body := by
  have plain {digits : List Char} {base number : Nat} (read : number? base digits = some number) :
      ∀ other ∈ digits, isBodyChar other = true := fun other member =>
    Bool.or_eq_true_iff.2 (.inl (alphanumeric_of_number read other member))
  cases refers with
  | named known =>
      simp only [markupNames, List.mem_cons, Prod.mk.injEq, List.not_mem_nil, or_false] at known
      rcases known with ⟨rfl, rfl⟩ | ⟨rfl, rfl⟩ | ⟨rfl, rfl⟩ | ⟨rfl, rfl⟩ <;>
        exact ⟨List.cons_ne_nil _ _, short, List.all_eq_true.1 rfl⟩
  | decimal zeros real written =>
      have read := number_written (show 1 < 10 by decide) (by decide) char.toNat zeros
      rw [← written] at read
      exact ⟨List.cons_ne_nil _ _, short, List.forall_mem_cons.2 ⟨rfl, plain read⟩⟩
  | @hexadecimal mark digits zeros real marked written =>
      have read := number_written (show 1 < 16 by decide) (by decide) char.toNat zeros
      rw [← written, number_to_lower] at read
      have letter : isBodyChar mark = true := by rcases marked with rfl | rfl <;> rfl
      exact ⟨List.cons_ne_nil _ _, short,
        List.forall_mem_cons.2 ⟨rfl, List.forall_mem_cons.2 ⟨letter, plain read⟩⟩⟩

/-! ## Texts -/

/-- A spelling is read whole, and what follows is read on its own. -/
theorem unescape_spelling {char : Char} {form : List Char} (spelling : Spelling char form)
    (rest : List Char) : unescapeChars (form ++ rest) = char :: unescapeChars rest := by
  cases spelling with
  | raw plain => exact unescape_plain plain rest
  | @reference body refers short =>
      have reference : ReferenceAt ('&' :: (body ++ [';']) ++ rest) body [char] rest :=
        ⟨by simp, refers.isBody short, refers.resolved⟩
      rw [unescape_resolved reference]
      rfl

/-- A text is restored from whatever it is spelled as. -/
theorem spelled_text_restored {text written : String}
    (spelled : Spelled text.toList written.toList) : unescape written = text := by
  have restored : unescapeChars written.toList = text.toList := by
    generalize text.toList = chars, written.toList = form at spelled
    induction spelled with
    | nil => exact unescape_nil
    | cons spelling rest ih => rw [unescape_spelling spelling, ih]
  rw [unescape, restored, String.ofList_toList]

/-- The text looks like a reference itself, and its last characters are written by digits. -/
theorem spelled_reference_restored :
    Spelled "&lt;<&".toList "&amp;lt;&#X03c;&#0038;".toList ∧
      unescape "&amp;lt;&#X03c;&#0038;" = "&lt;<&" := by
  have letter {char : Char} (plain : char ≠ '&') : Spelling char [char] := .raw plain
  have named : Spelling '&' ('&' :: (['a', 'm', 'p'] ++ [';'])) :=
    .reference (.named (by decide)) (by decide)
  have hexadecimal : Spelling '<' ('&' :: (['#', 'X', '0', '3', 'c'] ++ [';'])) :=
    .reference (.hexadecimal 1 (by decide) (.inr rfl) (by decide)) (by decide)
  have decimal : Spelling '&' ('&' :: (['#', '0', '0', '3', '8'] ++ [';'])) :=
    .reference (.decimal 2 (by decide) (by decide)) (by decide)
  have spelled : Spelled "&lt;<&".toList "&amp;lt;&#X03c;&#0038;".toList :=
    .cons named (.cons (letter (by decide)) (.cons (letter (by decide)) (.cons (letter (by decide))
      (.cons hexadecimal (.cons decimal .nil)))))
  exact ⟨spelled, spelled_text_restored spelled⟩

end Checkup.Text.Entity
