import Checkup.Text.Utf8
import Mathlib.Tactic.IntervalCases

/-!
# UTF-8 there and back

The bytes of a text decode to that text. A byte below `0x80` in them stands for a character of its
own and is never a part of another one, so whatever is looked for in the bytes can be looked for in
the text.
-/

namespace Checkup.Text.Utf8

/-! ## One character -/

theorem lead_two {top : Nat} (low : 2 ≤ top) (high : top < 32) :
    lead? (UInt8.ofNat (0xC0 + top)) = some ⟨1, top, 0x80, 0xBF⟩ := by
  interval_cases top <;> rfl

/-- Nothing shorter and no surrogate is written in three bytes. -/
theorem lead_three {top : Nat} (high : top < 16) :
    lead? (UInt8.ofNat (0xE0 + top)) =
      some ⟨2, top, if top = 0 then 0xA0 else 0x80, if top = 13 then 0x9F else 0xBF⟩ := by
  interval_cases top <;> rfl

/-- Nothing shorter and nothing beyond the last code point is written in four bytes. -/
theorem lead_four {top : Nat} (high : top < 5) :
    lead? (UInt8.ofNat (0xF0 + top)) =
      some ⟨3, top, if top = 0 then 0x90 else 0x80, if top = 4 then 0x8F else 0xBF⟩ := by
  interval_cases top <;> rfl

theorem head_lead {byte : UInt8} {lead : Lead} (found : lead? byte = some lead) (rest : Bytes) :
    head (byte :: rest) = follow lead.count lead.bits lead.low lead.high rest := by
  have beyond : ¬ byte < 0x80 := by
    intro small
    have value : byte.toNat < 0x80 := UInt8.lt_iff_toNat_lt.1 small
    have missing : lead? byte = none := if_pos (by omega)
    rw [missing] at found
    cases found
  rw [head, if_neg beyond, found]

/-- The byte for the lowest six bits of a number. -/
def continuation (value : Nat) : UInt8 := UInt8.ofNat (0x80 + value % 64)

theorem continuation_value (value : Nat) : (continuation value).toNat = 0x80 + value % 64 :=
  UInt8.toNat_ofNat_of_lt' (by rw [UInt8.size]; omega)

theorem follow_continuation (count value bits : Nat) {low high : UInt8} (rest : Bytes)
    (above : low.toNat ≤ 0x80 + bits % 64) (below : 0x80 + bits % 64 ≤ high.toNat) :
    follow (count + 1) value low high (continuation bits :: rest) =
      follow count (value * 64 + bits % 64) 0x80 0xBF rest := by
  have within : low ≤ continuation bits ∧ continuation bits ≤ high := by
    rw [UInt8.le_iff_toNat_le, UInt8.le_iff_toNat_le, continuation_value]
    exact ⟨above, below⟩
  have remainder : (0x80 + bits % 64) % 64 = bits % 64 := by omega
  rw [follow, if_pos within, continuation_value, remainder]

theorem encode_char_cases (char : Char) :
    (char.toNat < 0x80 ∧ encodeChar char = [UInt8.ofNat char.toNat]) ∨
    (0x80 ≤ char.toNat ∧ char.toNat < 0x800 ∧
      encodeChar char = [UInt8.ofNat (0xC0 + char.toNat / 64), continuation char.toNat]) ∨
    (0x800 ≤ char.toNat ∧ char.toNat < 0x10000 ∧
      encodeChar char = [UInt8.ofNat (0xE0 + char.toNat / 4096), continuation (char.toNat / 64),
        continuation char.toNat]) ∨
    (0x10000 ≤ char.toNat ∧
      encodeChar char = [UInt8.ofNat (0xF0 + char.toNat / 262144),
        continuation (char.toNat / 4096), continuation (char.toNat / 64),
        continuation char.toNat]) := by
  unfold encodeChar
  dsimp only
  split
  · exact .inl ⟨‹_›, rfl⟩
  split
  · exact .inr (.inl ⟨by omega, ‹_›, rfl⟩)
  split
  · exact .inr (.inr (.inl ⟨by omega, ‹_›, rfl⟩))
  · exact .inr (.inr (.inr ⟨by omega, rfl⟩))

/-- Whatever comes behind it, a character is read off its own bytes. -/
theorem head_encode (char : Char) (rest : Bytes) :
    head (encodeChar char ++ rest) = .scalar char rest := by
  have valid : char.toNat < 0xD800 ∨ 0xDFFF < char.toNat ∧ char.toNat < 0x110000 := char.valid
  have scalar {value : Nat} (same : value = char.toNat) :
      Head.scalar (Char.ofNat value) rest = .scalar char rest := by
    rw [same, Char.ofNat_toNat]
  rcases encode_char_cases char with ⟨small, bytes⟩ | ⟨low, high, bytes⟩ | ⟨low, high, bytes⟩ |
    ⟨low, bytes⟩
  · have value : (UInt8.ofNat char.toNat).toNat = char.toNat :=
      UInt8.toNat_ofNat_of_lt' (by rw [UInt8.size]; omega)
    have ascii : UInt8.ofNat char.toNat < 0x80 := by
      rw [UInt8.lt_iff_toNat_lt, value]
      exact small
    rw [bytes, List.singleton_append, head, if_pos ascii]
    exact scalar value
  · have lead := @lead_two (char.toNat / 64) (by omega) (by omega)
    rw [bytes, List.cons_append, head_lead lead]
    dsimp only
    rw [List.singleton_append, follow_continuation _ _ _ _ (by simp) (by simp; omega)]
    exact scalar (by omega)
  · have lead := @lead_three (char.toNat / 4096) (by omega)
    rw [bytes, List.cons_append, head_lead lead]
    dsimp only
    rw [List.cons_append, follow_continuation _ _ _ _ (by split <;> simp; omega)
        (by split <;> simp <;> omega),
      List.singleton_append, follow_continuation _ _ _ _ (by simp) (by simp; omega)]
    exact scalar (by omega)
  · have lead := @lead_four (char.toNat / 262144) (by omega)
    rw [bytes, List.cons_append, head_lead lead]
    dsimp only
    rw [List.cons_append, follow_continuation _ _ _ _ (by split <;> simp; omega)
        (by split <;> simp <;> omega),
      List.cons_append, follow_continuation _ _ _ _ (by simp) (by simp; omega),
      List.singleton_append, follow_continuation _ _ _ _ (by simp) (by simp; omega)]
    exact scalar (by omega)

theorem decode_scalar {bytes rest : Bytes} {char : Char} (found : head bytes = .scalar char rest) :
    decode? bytes = (decode? rest).map (char :: ·) := by
  rw [decode?]
  split
  · rename_i other
    rw [other] at found
    cases found
  · rename_i other
    rw [other] at found
    cases found
  · rename_i other
    rw [other] at found
    cases found
    rfl

/-! ## Texts -/

theorem decode_encode (text : List Char) : decode? (encode text) = some text := by
  induction text with
  | nil => rw [encode, List.flatMap_nil, decode?]; rfl
  | cons char rest ih =>
      have split : encode (char :: rest) = encodeChar char ++ encode rest := List.flatMap_cons
      rw [split, decode_scalar (head_encode char _), ih]
      rfl

theorem encode_append (front rest : List Char) :
    encode (front ++ rest) = encode front ++ encode rest :=
  List.flatMap_append

theorem encode_ascii {text : List Char} (ascii : ∀ char ∈ text, char.toNat < 0x80) :
    encode text = text.map fun char => UInt8.ofNat char.toNat := by
  induction text with
  | nil => rfl
  | cons char rest ih =>
      have small : encodeChar char = [UInt8.ofNat char.toNat] :=
        if_pos (ascii char List.mem_cons_self)
      have others := ih fun other member => ascii other (List.mem_cons_of_mem _ member)
      have split : encode (char :: rest) = encodeChar char ++ encode rest := List.flatMap_cons
      rw [split, small, others]
      rfl

theorem ascii_mem_encode_char {char : Char} {byte : UInt8} (ascii : byte.toNat < 0x80)
    (member : byte ∈ encodeChar char) : byte = UInt8.ofNat char.toNat ∧ char.toNat < 0x80 := by
  have valid : char.toNat < 0xD800 ∨ 0xDFFF < char.toNat ∧ char.toNat < 0x110000 := char.valid
  have later {value : Nat} : byte ≠ continuation value := by
    rintro rfl
    rw [continuation_value] at ascii
    omega
  have first {value : Nat} (low : 0x80 ≤ value) (high : value < 256) :
      byte ≠ UInt8.ofNat value := by
    rintro rfl
    rw [UInt8.toNat_ofNat_of_lt' high] at ascii
    omega
  rcases encode_char_cases char with ⟨small, bytes⟩ | ⟨low, high, bytes⟩ | ⟨low, high, bytes⟩ |
    ⟨low, bytes⟩ <;> rw [bytes] at member
  · exact ⟨List.mem_singleton.1 member, small⟩
  all_goals
    simp only [List.mem_cons, List.not_mem_nil, or_false, later] at member
    exact absurd member (first (by omega) (by omega))

/-- A character below `0x80` stands in a text if its byte stands in the bytes of the text. -/
theorem mem_of_mem_encode {text : List Char} {char : Char} (ascii : char.toNat < 0x80)
    (member : UInt8.ofNat char.toNat ∈ encode text) : char ∈ text := by
  obtain ⟨other, inText, inBytes⟩ := List.mem_flatMap.1 member
  have value : (UInt8.ofNat char.toNat).toNat = char.toNat :=
    UInt8.toNat_ofNat_of_lt' (by rw [UInt8.size]; omega)
  obtain ⟨same, small⟩ := ascii_mem_encode_char (by omega) inBytes
  have codes := congrArg UInt8.toNat same
  rw [value, UInt8.toNat_ofNat_of_lt' (by rw [UInt8.size]; omega)] at codes
  exact Char.toNat_inj.1 codes ▸ inText

end Checkup.Text.Utf8
