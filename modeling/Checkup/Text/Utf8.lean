/-!
# UTF-8

Strict and lossy decoding over one view of a byte string: its first character, or the longest
invalid start that one replacement character stands for.
-/

namespace Checkup

abbrev Bytes := List UInt8

namespace Text.Utf8

/-- What a byte string begins with. -/
inductive Head where
  | nothing
  | scalar (char : Char) (rest : Bytes)
  | broken (rest : Bytes)

/-- A lead byte announces `count` continuation bytes, the first of them in a range of its own. -/
structure Lead where
  count : Nat
  bits : Nat
  low : UInt8
  high : UInt8

def lead? (byte : UInt8) : Option Lead :=
  let value := byte.toNat
  if value < 0xC2 then none
  else if value < 0xE0 then some ⟨1, value - 0xC0, 0x80, 0xBF⟩
  else if value = 0xE0 then some ⟨2, 0, 0xA0, 0xBF⟩
  else if value = 0xED then some ⟨2, 0xD, 0x80, 0x9F⟩
  else if value < 0xF0 then some ⟨2, value - 0xE0, 0x80, 0xBF⟩
  else if value = 0xF0 then some ⟨3, 0, 0x90, 0xBF⟩
  else if value < 0xF4 then some ⟨3, value - 0xF0, 0x80, 0xBF⟩
  else if value = 0xF4 then some ⟨3, 4, 0x80, 0x8F⟩
  else none

/-- Reads `count` continuation bytes onto `value`; only the first has the given range. -/
def follow : (count value : Nat) → (low high : UInt8) → Bytes → Head
  | 0, value, _, _, rest => .scalar (Char.ofNat value) rest
  | _ + 1, _, _, _, [] => .broken []
  | count + 1, value, low, high, byte :: rest =>
    if low ≤ byte ∧ byte ≤ high then
      follow count (value * 64 + byte.toNat % 64) 0x80 0xBF rest
    else .broken (byte :: rest)

def head : Bytes → Head
  | [] => .nothing
  | byte :: rest =>
    if byte < 0x80 then .scalar (Char.ofNat byte.toNat) rest
    else
      match lead? byte with
      | none => .broken rest
      | some lead => follow lead.count lead.bits lead.low lead.high rest

theorem follow_scalar_length {count value : Nat} {low high : UInt8} {bytes rest : Bytes}
    {char : Char} (found : follow count value low high bytes = .scalar char rest) :
    rest.length ≤ bytes.length := by
  fun_induction follow count value low high bytes with
  | case1 => cases found; exact Nat.le_refl _
  | case2 => cases found
  | case3 _ _ _ _ _ _ _ ih => exact Nat.le_succ_of_le (ih found)
  | case4 => cases found

theorem follow_broken_length {count value : Nat} {low high : UInt8} {bytes rest : Bytes}
    (found : follow count value low high bytes = .broken rest) :
    rest.length ≤ bytes.length := by
  fun_induction follow count value low high bytes with
  | case1 => cases found
  | case2 => cases found; exact Nat.le_refl _
  | case3 _ _ _ _ _ _ _ ih => exact Nat.le_succ_of_le (ih found)
  | case4 => cases found; exact Nat.le_refl _

theorem head_scalar_length {bytes rest : Bytes} {char : Char}
    (found : head bytes = .scalar char rest) : rest.length < bytes.length := by
  unfold head at found
  split at found
  · cases found
  · split at found
    · cases found; exact Nat.lt_succ_self _
    · split at found
      · cases found
      · exact Nat.lt_succ_of_le (follow_scalar_length found)

theorem head_broken_length {bytes rest : Bytes}
    (found : head bytes = .broken rest) : rest.length < bytes.length := by
  unfold head at found
  split at found
  · cases found
  · split at found
    · cases found
    · split at found
      · cases found; exact Nat.lt_succ_self _
      · exact Nat.lt_succ_of_le (follow_broken_length found)

/-- Every byte belongs to a well-formed sequence, or there is no text. -/
def decode? (bytes : Bytes) : Option (List Char) :=
  match found : head bytes with
  | .nothing => some []
  | .broken _ => none
  | .scalar char rest =>
    have := head_scalar_length found
    (decode? rest).map (char :: ·)
termination_by bytes.length

def replacement : Char := '\ufffd'

/-- A replacement character stands for each longest invalid start. -/
def decodeLossy (bytes : Bytes) : List Char :=
  match found : head bytes with
  | .nothing => []
  | .broken rest =>
    have := head_broken_length found
    replacement :: decodeLossy rest
  | .scalar char rest =>
    have := head_scalar_length found
    char :: decodeLossy rest
termination_by bytes.length

def encodeChar (char : Char) : Bytes :=
  let code := char.toNat
  let tail (value : Nat) : UInt8 := UInt8.ofNat (0x80 + value % 64)
  if code < 0x80 then [UInt8.ofNat code]
  else if code < 0x800 then [UInt8.ofNat (0xC0 + code / 64), tail code]
  else if code < 0x10000 then
    [UInt8.ofNat (0xE0 + code / 4096), tail (code / 64), tail code]
  else
    [UInt8.ofNat (0xF0 + code / 262144), tail (code / 4096), tail (code / 64), tail code]

def encode (text : List Char) : Bytes :=
  text.flatMap encodeChar

end Text.Utf8

/-- The UTF-8 bytes of a text. -/
def Bytes.ofString (text : String) : Bytes :=
  Text.Utf8.encode text.toList

/-- The text of a byte string, a replacement character for each longest invalid start. -/
def Bytes.toLossyString (bytes : Bytes) : String :=
  String.ofList (Text.Utf8.decodeLossy bytes)

end Checkup
