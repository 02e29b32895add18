import Checkup.Proofs.Text.Utf8

/-!
# Bytes that are no text

Lossy decoding replaces what is not UTF-8 and keeps the rest. A byte below `0x80` stands for its
character wherever it is, so bytes can be cut there before they are decoded or after. Bytes come
back as they were exactly if they are UTF-8.
-/

namespace Checkup.Text.Utf8

/-! ## Characters and their bytes -/

/-- What the ranges of a lead byte exclude: forms that could be shorter, surrogates, and what lies
beyond the last code point. -/
theorem lead_forms {byte : UInt8} {lead : Lead} (found : lead? byte = some lead) :
    (lead.count = 1 ∧ byte.toNat = 0xC0 + lead.bits ∧ 2 ≤ lead.bits ∧ lead.bits < 32 ∧
      lead.low.toNat = 0x80 ∧ lead.high.toNat = 0xBF) ∨
    (lead.count = 2 ∧ byte.toNat = 0xE0 + lead.bits ∧ lead.bits < 16 ∧
      lead.low.toNat = (if lead.bits = 0 then 0xA0 else 0x80) ∧
      lead.high.toNat = (if lead.bits = 13 then 0x9F else 0xBF)) ∨
    (lead.count = 3 ∧ byte.toNat = 0xF0 + lead.bits ∧ lead.bits < 5 ∧
      lead.low.toNat = (if lead.bits = 0 then 0x90 else 0x80) ∧
      lead.high.toNat = (if lead.bits = 4 then 0x8F else 0xBF)) := by
  unfold lead? at found
  dsimp only at found
  split_ifs at found <;> cases found <;> simp <;> omega

theorem lead_low {byte : UInt8} {lead : Lead} (found : lead? byte = some lead) :
    0x80 ≤ lead.low.toNat := by
  rcases lead_forms found with ⟨-, -, -, -, low, -⟩ | ⟨-, -, -, low, -⟩ | ⟨-, -, -, low, -⟩
  · omega
  · split at low <;> omega
  · split at low <;> omega

theorem follow_next {count value : Nat} {low high : UInt8} {bytes rest : Bytes} {char : Char}
    (found : follow (count + 1) value low high bytes = .scalar char rest) :
    ∃ next more, bytes = next :: more ∧ (low.toNat ≤ next.toNat ∧ next.toNat ≤ high.toNat) ∧
      follow count (value * 64 + next.toNat % 64) 0x80 0xBF more = .scalar char rest := by
  cases bytes with
  | nil => cases found
  | cons next more =>
      rw [follow] at found
      split at found
      · rename_i within
        exact ⟨next, more, rfl, within, found⟩
      · cases found

theorem follow_last {value : Nat} {low high : UInt8} {bytes rest : Bytes} {char : Char}
    (found : follow 0 value low high bytes = .scalar char rest) :
    char = Char.ofNat value ∧ bytes = rest := by
  cases found
  exact ⟨rfl, rfl⟩

theorem code_of_value {value : Nat} (valid : value.isValidChar) :
    (Char.ofNat value).toNat = value := by
  rw [Char.ofNat, dif_pos valid]
  rfl

theorem byte_of_value {byte : UInt8} {value : Nat} (same : value = byte.toNat) :
    UInt8.ofNat value = byte := by
  rw [same, UInt8.ofNat_toNat]

theorem byte_of_continuation {byte : UInt8} {value : Nat} (low : 0x80 ≤ byte.toNat)
    (high : byte.toNat ≤ 0xBF) (same : value % 64 = byte.toNat % 64) :
    continuation value = byte :=
  byte_of_value (by omega)

section Forms

variable {byte low high : UInt8} {bits : Nat} {tail rest : Bytes} {char : Char}

theorem two_bytes (top : byte.toNat = 0xC0 + bits) (least : 2 ≤ bits) (most : bits < 32)
    (above : low.toNat = 0x80) (below : high.toNat = 0xBF)
    (found : follow 1 bits low high tail = .scalar char rest) :
    byte :: tail = encodeChar char ++ rest := by
  obtain ⟨second, more, rfl, inside, found⟩ := follow_next found
  obtain ⟨rfl, rfl⟩ := follow_last found
  generalize value : bits * 64 + second.toNat % 64 = code
  have valid := code_of_value (.inl (by omega) : code.isValidChar)
  rcases encode_char_cases (Char.ofNat code) with other | ⟨-, -, own⟩ | other | other
  rotate_left
  · rw [own, valid, @byte_of_value byte _ (by omega),
      @byte_of_continuation second _ (by omega) (by omega) (by omega)]
    rfl
  all_goals omega

theorem three_bytes (top : byte.toNat = 0xE0 + bits) (most : bits < 16)
    (above : low.toNat = if bits = 0 then 0xA0 else 0x80)
    (below : high.toNat = if bits = 13 then 0x9F else 0xBF)
    (found : follow 2 bits low high tail = .scalar char rest) :
    byte :: tail = encodeChar char ++ rest := by
  obtain ⟨second, more, rfl, inside, found⟩ := follow_next found
  obtain ⟨third, more, rfl, insideToo, found⟩ := follow_next found
  obtain ⟨rfl, rfl⟩ := follow_last found
  simp only [UInt8.reduceToNat] at insideToo
  generalize value : (bits * 64 + second.toNat % 64) * 64 + third.toNat % 64 = code
  have continues : 0x80 ≤ second.toNat ∧ second.toNat ≤ 0xBF := by
    split at above <;> split at below <;> omega
  have range : 0x800 ≤ code ∧ code < 0x10000 ∧ (code < 0xD800 ∨ 0xDFFF < code) := by
    split at above <;> split at below <;> omega
  have valid := code_of_value (by unfold Nat.isValidChar; omega : code.isValidChar)
  rcases encode_char_cases (Char.ofNat code) with other | other | ⟨-, -, own⟩ | other
  rotate_left 2
  · rw [own, valid, @byte_of_value byte _ (by omega),
      @byte_of_continuation second _ (by omega) (by omega) (by omega),
      @byte_of_continuation third _ (by omega) (by omega) (by omega)]
    rfl
  all_goals omega

theorem four_bytes (top : byte.toNat = 0xF0 + bits) (most : bits < 5)
    (above : low.toNat = if bits = 0 then 0x90 else 0x80)
    (below : high.toNat = if bits = 4 then 0x8F else 0xBF)
    (found : follow 3 bits low high tail = .scalar char rest) :
    byte :: tail = encodeChar char ++ rest := by
  obtain ⟨second, more, rfl, inside, found⟩ := follow_next found
  obtain ⟨third, more, rfl, insideToo, found⟩ := follow_next found
  obtain ⟨fourth, more, rfl, insideLast, found⟩ := follow_next found
  obtain ⟨rfl, rfl⟩ := follow_last found
  simp only [UInt8.reduceToNat] at insideToo insideLast
  generalize value : ((bits * 64 + second.toNat % 64) * 64 + third.toNat % 64) * 64 +
    fourth.toNat % 64 = code
  have continues : 0x80 ≤ second.toNat ∧ second.toNat ≤ 0xBF := by
    split at above <;> split at below <;> omega
  have range : 0x10000 ≤ code ∧ code < 0x110000 := by
    split at above <;> split at below <;> omega
  have valid := code_of_value (by unfold Nat.isValidChar; omega : code.isValidChar)
  rcases encode_char_cases (Char.ofNat code) with other | other | other | ⟨-, own⟩
  rotate_left 3
  · rw [own, valid, @byte_of_value byte _ (by omega),
      @byte_of_continuation second _ (by omega) (by omega) (by omega),
      @byte_of_continuation third _ (by omega) (by omega) (by omega),
      @byte_of_continuation fourth _ (by omega) (by omega) (by omega)]
    rfl
  all_goals omega

end Forms

theorem follow_something (count value : Nat) (low high : UInt8) (bytes : Bytes) :
    follow count value low high bytes ≠ .nothing := by
  fun_induction follow count value low high bytes with
  | case1 => exact Head.noConfusion
  | case2 => exact Head.noConfusion
  | case3 _ _ _ _ _ _ _ ih => exact ih
  | case4 => exact Head.noConfusion

theorem head_something (byte : UInt8) (rest : Bytes) : head (byte :: rest) ≠ .nothing := by
  rw [head]
  split
  · exact Head.noConfusion
  split
  · exact Head.noConfusion
  · rename_i lead _
    exact follow_something lead.count lead.bits lead.low lead.high rest

/-- A character is read off no other bytes than its own. -/
theorem head_scalar_bytes {bytes rest : Bytes} {char : Char}
    (found : head bytes = .scalar char rest) : bytes = encodeChar char ++ rest := by
  cases bytes with
  | nil => cases found
  | cons byte tail =>
      rw [head] at found
      split at found
      · rename_i ascii
        cases found
        have small : byte.toNat < 0x80 := UInt8.lt_iff_toNat_lt.1 ascii
        have code := code_of_value (.inl (by omega) : byte.toNat.isValidChar)
        rcases encode_char_cases (Char.ofNat byte.toNat) with ⟨-, own⟩ | other | other | other
        · rw [own, code, UInt8.ofNat_toNat]
          rfl
        all_goals omega
      split at found
      · cases found
      rename_i lead leads
      rcases lead_forms leads with ⟨count, top, least, most, above, below⟩ |
        ⟨count, top, most, above, below⟩ | ⟨count, top, most, above, below⟩
      · rw [count] at found
        exact two_bytes top least most above below found
      · rw [count] at found
        exact three_bytes top most above below found
      · rw [count] at found
        exact four_bytes top most above below found

theorem decode_some_iff {bytes : Bytes} {text : List Char} :
    decode? bytes = some text ↔ bytes = encode text := by
  constructor
  · intro decoded
    fun_induction decode? bytes generalizing text with
    | case1 bytes found =>
        cases decoded
        cases bytes with
        | nil => rfl
        | cons => exact absurd found (head_something _ _)
    | case2 => cases decoded
    | case3 bytes char rest found _ ih =>
        obtain ⟨others, decodedRest, rfl⟩ := Option.map_eq_some_iff.1 decoded
        rw [head_scalar_bytes found, ih decodedRest]
        rfl
  · rintro rfl
    exact decode_encode text

/-! ## Lossy decoding -/

theorem decode_lossy_nil : decodeLossy [] = [] := by
  rw [decodeLossy]
  rfl

theorem decode_lossy_scalar {bytes rest : Bytes} {char : Char}
    (found : head bytes = .scalar char rest) : decodeLossy bytes = char :: decodeLossy rest := by
  rw [decodeLossy]
  split <;> simp_all

theorem decode_lossy_broken {bytes rest : Bytes} (found : head bytes = .broken rest) :
    decodeLossy bytes = replacement :: decodeLossy rest := by
  rw [decodeLossy]
  split <;> simp_all

theorem decode_lossy_encode (text : List Char) : decodeLossy (encode text) = text := by
  induction text with
  | nil => exact decode_lossy_nil
  | cons char rest ih =>
      have split : encode (char :: rest) = encodeChar char ++ encode rest := List.flatMap_cons
      rw [split, decode_lossy_scalar (head_encode char _), ih]

/-! ## Cutting at a byte of its own -/

/-- What a byte string begins with when more stands behind it. -/
def Head.append (begun : Head) (more : Bytes) : Head :=
  match begun with
  | .nothing => .nothing
  | .scalar char rest => .scalar char (rest ++ more)
  | .broken rest => .broken (rest ++ more)

section Cut

variable {byte : UInt8} (ascii : byte.toNat < 0x80) (more : Bytes)

include ascii

theorem follow_append (count value : Nat) {low : UInt8} (high : UInt8) (above : 0x80 ≤ low.toNat)
    (front : Bytes) : follow count value low high (front ++ byte :: more) =
      (follow count value low high front).append (byte :: more) := by
  fun_induction follow count value low high front with
  | case1 => rfl
  | case2 value low high count =>
      have outside : ¬ (low ≤ byte ∧ byte ≤ high) := by
        rintro ⟨least, -⟩
        rw [UInt8.le_iff_toNat_le] at least
        omega
      rw [List.nil_append, follow, if_neg outside]
      rfl
  | case3 _ _ _ _ _ _ inside ih =>
      rw [List.cons_append, follow, if_pos inside]
      exact ih (by decide)
  | case4 _ _ _ _ _ _ outside =>
      rw [List.cons_append, follow, if_neg outside]
      rfl

theorem head_append {front : Bytes} (nonempty : front ≠ []) :
    head (front ++ byte :: more) = (head front).append (byte :: more) := by
  cases front with
  | nil => exact absurd rfl nonempty
  | cons first rest =>
      rw [List.cons_append, head, head]
      split
      · rfl
      · split
        · rfl
        · rename_i found
          exact follow_append ascii more _ _ _ (lead_low found) rest

theorem decode_lossy_split (front : Bytes) :
    decodeLossy (front ++ byte :: more) =
      decodeLossy front ++ Char.ofNat byte.toNat :: decodeLossy more := by
  fun_induction decodeLossy front with
  | case1 front found =>
      have own : head (byte :: more) = .scalar (Char.ofNat byte.toNat) more :=
        if_pos (UInt8.lt_iff_toNat_lt.2 ascii)
      cases front with
      | nil => exact decode_lossy_scalar own
      | cons => exact absurd found (head_something _ _)
  | case2 front rest found _ ih =>
      have nonempty : front ≠ [] := by rintro rfl; cases found
      have appended := head_append ascii more nonempty
      rw [found] at appended
      rw [decode_lossy_broken appended, ih]
      rfl
  | case3 front char rest found _ ih =>
      have nonempty : front ≠ [] := by rintro rfl; cases found
      have appended := head_append ascii more nonempty
      rw [found] at appended
      rw [decode_lossy_scalar appended, ih]
      rfl

end Cut

/-! ## There and back -/

/-- The bytes of the text that bytes are decoded to. -/
def restored (bytes : Bytes) : Bytes := encode (decodeLossy bytes)

theorem restored_nil : restored [] = [] := by
  rw [restored, decode_lossy_nil]
  rfl

theorem restored_eq_iff {bytes : Bytes} : restored bytes = bytes ↔ (decode? bytes).isSome := by
  constructor
  · intro same
    rw [← same, restored, decode_encode]
    rfl
  · intro isText
    obtain ⟨text, decoded⟩ := Option.isSome_iff_exists.1 isText
    rw [decode_some_iff.1 decoded, restored, decode_lossy_encode]

theorem restored_split {byte : UInt8} (ascii : byte.toNat < 0x80) (front more : Bytes) :
    restored (front ++ byte :: more) = restored front ++ byte :: restored more := by
  have code := code_of_value (.inl (by omega) : byte.toNat.isValidChar)
  have own : encodeChar (Char.ofNat byte.toNat) = [byte] := by
    rw [encodeChar, code]
    simp only [ascii, if_true, UInt8.ofNat_toNat]
  have split : encode (Char.ofNat byte.toNat :: decodeLossy more) =
      encodeChar (Char.ofNat byte.toNat) ++ encode (decodeLossy more) := List.flatMap_cons
  rw [restored, decode_lossy_split ascii, encode_append, split, own]
  rfl

theorem follow_broken_suffix {count value : Nat} {low high : UInt8} {bytes rest : Bytes}
    (found : follow count value low high bytes = .broken rest) : rest <:+ bytes := by
  fun_induction follow count value low high bytes with
  | case1 => cases found
  | case2 => cases found; exact List.suffix_refl _
  | case3 _ _ _ _ _ _ _ ih => exact (ih found).trans (List.suffix_cons _ _)
  | case4 => cases found; exact List.suffix_refl _

theorem head_broken_suffix {bytes rest : Bytes} (found : head bytes = .broken rest) :
    rest <:+ bytes := by
  cases bytes with
  | nil => cases found
  | cons byte tail =>
      rw [head] at found
      split at found
      · cases found
      split at found
      · cases found
        exact List.suffix_cons _ _
      · exact (follow_broken_suffix found).trans (List.suffix_cons _ _)

theorem replacement_bytes : encodeChar replacement = [0xEF, 0xBF, 0xBD] := by
  decide

/-- A byte of its own that comes back was there. -/
theorem mem_of_mem_restored {byte : UInt8} (ascii : byte.toNat < 0x80) {bytes : Bytes}
    (member : byte ∈ restored bytes) : byte ∈ bytes := by
  rw [restored] at member
  fun_induction decodeLossy bytes with
  | case1 => cases member
  | case2 bytes rest found _ ih =>
      have split : encode (replacement :: decodeLossy rest) =
          encodeChar replacement ++ encode (decodeLossy rest) := List.flatMap_cons
      rw [split, replacement_bytes] at member
      rcases List.mem_append.1 member with own | later
      · simp only [List.mem_cons, List.not_mem_nil, or_false] at own
        rcases own with rfl | rfl | rfl <;> simp at ascii
      · exact (head_broken_suffix found).mem (ih later)
  | case3 bytes char rest found _ ih =>
      have split : encode (char :: decodeLossy rest) =
          encodeChar char ++ encode (decodeLossy rest) := List.flatMap_cons
      rw [split] at member
      rw [head_scalar_bytes found]
      rcases List.mem_append.1 member with own | later
      · exact List.mem_append_left _ own
      · exact List.mem_append_right _ (ih later)

/-- Where nothing was replaced the bytes are UTF-8. -/
theorem decode_of_unreplaced {bytes : Bytes} (kept : replacement ∉ decodeLossy bytes) :
    decode? bytes = some (decodeLossy bytes) := by
  fun_induction decodeLossy bytes with
  | case1 bytes found =>
      cases bytes with
      | nil => exact decode_encode []
      | cons => exact absurd found (head_something _ _)
  | case2 => exact absurd List.mem_cons_self kept
  | case3 bytes char rest found _ ih =>
      rw [decode_scalar found, ih fun later => kept (List.mem_cons_of_mem _ later)]
      rfl

/-- Bytes that come back as characters of one byte each were those bytes. -/
theorem restored_ascii_iff {bytes ascii : Bytes} (small : ∀ byte ∈ ascii, byte.toNat < 0x80) :
    restored bytes = ascii ↔ bytes = ascii := by
  constructor
  · intro same
    have kept : replacement ∉ decodeLossy bytes := by
      intro member
      have inside : (0xEF : UInt8) ∈ restored bytes :=
        List.mem_flatMap.2 ⟨replacement, member, by rw [replacement_bytes]; exact List.mem_cons_self⟩
      rw [same] at inside
      exact absurd (small _ inside) (by decide)
    rw [← same, eq_comm, restored_eq_iff, decode_of_unreplaced kept]
    rfl
  · rintro rfl
    induction bytes with
    | nil => exact restored_nil
    | cons byte rest ih =>
        have cut := restored_split (small byte List.mem_cons_self) [] rest
        rw [restored_nil, List.nil_append, List.nil_append] at cut
        rw [cut, ih fun other member => small other (List.mem_cons_of_mem _ member)]

end Checkup.Text.Utf8
