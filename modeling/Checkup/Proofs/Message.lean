import Checkup.Message
import Checkup.Proofs.Text.Lossy

/-!
# Reading messages

A message is read in UTF-8 or, where it is none, in the encoding that a label names; only where
both fail it cannot be read. In the default encoding every byte is a character, so under its labels
every message can be read.
-/

namespace Checkup

open Text.Utf8 (encode decode_some_iff)

namespace Message

/-! ## What a message says -/

/-- The text of a message: in UTF-8 if it is that, otherwise in the encoding that a label names. -/
inductive ReadsAs (label : String) (bytes : Bytes) (text : List Char) : Prop
  | utf8 (encoded : bytes = encode text)
  | fallback {encoding : Encoding} (foreign : ∀ other, bytes ≠ encode other)
      (named : Encoding.ofLabel? label = some encoding)
      (decoded : encoding.decode? bytes = some text)

/-- A message that is not UTF-8, and the label names no encoding or one that has no such text. -/
def Unreadable (label : String) (bytes : Bytes) : Prop :=
  (∀ text, bytes ≠ encode text) ∧
    (Encoding.ofLabel? label = none ∨
      ∃ encoding, Encoding.ofLabel? label = some encoding ∧ encoding.decode? bytes = none)

theorem foreign_iff {bytes : Bytes} :
    Text.Utf8.decode? bytes = none ↔ ∀ text, bytes ≠ encode text := by
  rw [Option.eq_none_iff_forall_ne_some]
  exact forall_congr' fun text => not_congr decode_some_iff

theorem decode_text_iff {bytes : Bytes} {label : String} {text : List Char} :
    decodeText bytes label = .ok text ↔ ReadsAs label bytes text := by
  unfold decodeText
  constructor
  · intro decoded
    split at decoded
    · rename_i read
      cases decoded
      exact .utf8 (decode_some_iff.1 read)
    · rename_i foreign
      split at decoded
      · cases decoded
      · rename_i encoding named
        split at decoded
        · rename_i read
          cases decoded
          exact .fallback (foreign_iff.1 foreign) named read
        · cases decoded
  · rintro (encoded | ⟨foreign, named, decoded⟩)
    · rw [decode_some_iff.2 encoded]
    · rw [foreign_iff.2 foreign, named]
      dsimp only
      rw [decoded]

theorem unreadable_iff {bytes : Bytes} {label : String} :
    Unreadable label bytes ↔ ∃ error, decodeText bytes label = .error error := by
  unfold decodeText
  constructor
  · rintro ⟨foreign, unnamed | ⟨encoding, named, refused⟩⟩
    · rw [foreign_iff.2 foreign, unnamed]
      exact ⟨_, rfl⟩
    · rw [foreign_iff.2 foreign, named]
      dsimp only
      rw [refused]
      exact ⟨_, rfl⟩
  · rintro ⟨error, failed⟩
    split at failed
    · cases failed
    · rename_i foreign
      refine ⟨foreign_iff.1 foreign, ?_⟩
      split at failed
      · rename_i unnamed
        exact .inl unnamed
      · rename_i encoding named
        split at failed
        · cases failed
        · rename_i refused
          exact .inr ⟨encoding, named, refused⟩

theorem decode_iff {bytes : Bytes} {label message : String} :
    decode bytes label = .ok message ↔
      ∃ text, ReadsAs label bytes text ∧
        message = String.ofList (Text.Entity.unescapeChars text) := by
  unfold decode
  constructor
  · intro decoded
    cases read : decodeText bytes label with
    | error error =>
        rw [read] at decoded
        cases decoded
    | ok text =>
        rw [read] at decoded
        exact ⟨text, decode_text_iff.1 read, (Except.ok.inj decoded).symm⟩
  · rintro ⟨text, reads, rfl⟩
    rw [decode_text_iff.2 reads]
    rfl

theorem undecodable_iff {bytes : Bytes} {label : String} :
    (∃ error, decode bytes label = .error error) ↔ Unreadable label bytes := by
  rw [unreadable_iff]
  unfold decode
  cases decodeText bytes label with
  | error error => exact ⟨fun _ => ⟨error, rfl⟩, fun _ => ⟨error, rfl⟩⟩
  | ok text =>
      constructor
      · rintro ⟨_, failed⟩
        cases failed
      · rintro ⟨_, failed⟩
        cases failed

end Message

/-! ## The default encoding -/

namespace Encoding

/-- A label in any case, with any blanks around it. -/
def LabelledAs (label : String) (encoding : Encoding) : Prop :=
  ∃ known ∈ encoding.labels, (Text.trim label.toList).map Char.toLower = known.toList

theorem windows_1252_labels :
    ∀ encoding ∈ all.take 20, ∀ known ∈ encoding.labels,
      known ∉ SingleByte.windows1252.labels := by
  decide +kernel

theorem of_windows_1252_label {label : String}
    (labelled : LabelledAs label (.singleByte .windows1252)) :
    ofLabel? label = some (.singleByte .windows1252) := by
  obtain ⟨known, member, same⟩ := labelled
  rw [ofLabel?, same, List.find?_eq_some_iff_append]
  refine ⟨?_, all.take 20, all.drop 21, rfl, ?_⟩
  · exact List.any_eq_true.2 ⟨known, member, beq_self_eq_true _⟩
  · intro encoding earlier
    rw [Bool.not_eq_true', List.any_eq_false]
    intro other otherMember equal
    have sameLabel : other = known := String.toList_inj.1 (eq_of_beq equal)
    exact windows_1252_labels encoding earlier other otherMember (sameLabel ▸ member)

/-- A row of a table in which every byte has a character. -/
def Gapless (length : Nat) (row : String) : Prop :=
  row.toList.length = length ∧ '\ufffd' ∉ row.toList

theorem gapless_of_chars {length : Nat} {chars : List Char} (full : chars.length = length)
    (whole : '\ufffd' ∉ chars) : Gapless length (String.ofList chars) := by
  rw [Gapless, String.toList_ofList]
  exact ⟨full, whole⟩

theorem Gapless.append {length more : Nat} {row next : String} (gapless : Gapless length row)
    (gaplessToo : Gapless more next) : Gapless (length + more) (row ++ next) := by
  rw [Gapless, String.toList_append, List.length_append, List.mem_append, gapless.1, gaplessToo.1]
  exact ⟨rfl, fun gap => gap.elim gapless.2 gaplessToo.2⟩

theorem windows_1252_gapless : Gapless (32 + 32 + 32 + 32) SingleByte.windows1252.upperHalf :=
  (((gapless_of_chars (by decide) (by decide)).append
    (gapless_of_chars (by decide) (by decide))).append
      (gapless_of_chars (by decide) (by decide))).append
        (gapless_of_chars (by decide) (by decide))

theorem windows_1252_byte (byte : UInt8) :
    ∃ char, SingleByte.windows1252.decodeByte? byte = some char := by
  obtain ⟨length, whole⟩ := windows_1252_gapless
  unfold SingleByte.decodeByte?
  split
  · exact ⟨_, rfl⟩
  · have inside : byte.toNat - 0x80 < SingleByte.windows1252.upperHalf.toList.length := by
      have bound := byte.toNat_lt
      omega
    have present : SingleByte.windows1252.upperHalf.toList[byte.toNat - 0x80] ≠ '\ufffd' :=
      fun gap => whole (gap ▸ List.getElem_mem inside)
    rw [List.getElem?_eq_getElem inside]
    dsimp only
    rw [if_neg present]
    exact ⟨_, rfl⟩

/-- Every byte string is a text of the default encoding. -/
theorem windows_1252_total (bytes : Bytes) :
    ∃ text, decode? (.singleByte .windows1252) bytes = some text := by
  change ∃ text, bytes.mapM SingleByte.windows1252.decodeByte? = some text
  induction bytes with
  | nil => exact ⟨[], rfl⟩
  | cons byte rest ih =>
      obtain ⟨char, read⟩ := windows_1252_byte byte
      obtain ⟨others, readRest⟩ := ih
      refine ⟨char :: others, ?_⟩
      rw [List.mapM_cons, read, readRest]
      rfl

end Encoding

theorem Message.readable_in_windows_1252 {label : String}
    (labelled : Encoding.LabelledAs label (.singleByte .windows1252)) (bytes : Bytes) :
    ¬ Unreadable label bytes := by
  have named := Encoding.of_windows_1252_label labelled
  obtain ⟨text, decoded⟩ := Encoding.windows_1252_total bytes
  rintro ⟨-, unnamed | ⟨encoding, namedToo, refused⟩⟩
  · rw [named] at unnamed
    cases unnamed
  · rw [named] at namedToo
    cases namedToo
    rw [decoded] at refused
    cases refused

end Checkup
