import Checkup.Proofs.Text.Lossy
import Checkup.Proofs.Text.ReferenceScan

/-!
# Jumps between references

On the UTF-8 bytes of a text the scan for references is a sequence of jumps: to the next ampersand,
to the first semicolon behind it, and back behind the ampersand if the bytes between the two are no
reference. Every jump ends between two characters, and the jumps put out what is put out when the
text is read character by character.
-/

namespace Checkup.Text.Entity

open Utf8 (encode encodeChar encode_append encode_char_cases mem_of_mem_encode
  ascii_mem_encode_char)

def ampersand : UInt8 := 0x26

def semicolon : UInt8 := 0x3B

/-- An offset that does not lie inside a character: at the end, or before a byte that continues no
character. -/
def isBoundary (bytes : Bytes) (offset : Nat) : Bool :=
  match bytes[offset]? with
  | some byte => offset == 0 || byte < 0x80 || 0xC0 ≤ byte
  | none => offset == bytes.length

inductive BadCut where
  | insideCharacter (offset : Nat)
  deriving DecidableEq, Repr

theorem bind_ok {Value Next : Type} {first : Except BadCut Value}
    {next : Value → Except BadCut Next} {result : Next} (done : first >>= next = .ok result) :
    ∃ value, first = .ok value ∧ next value = .ok result := by
  cases first with
  | error => cases done
  | ok value => exact ⟨value, rfl, done⟩

/-- The bytes before an offset and those from it on. -/
def cut (bytes : Bytes) (offset : Nat) : Except BadCut (Bytes × Bytes) :=
  if isBoundary bytes offset then .ok (bytes.splitAt offset) else .error (.insideCharacter offset)

def isBodyByte (byte : UInt8) : Bool := isBodyChar (Char.ofNat byte.toNat)

/-- What the reference behind an ampersand stands for and the bytes behind its semicolon. -/
def cutReference (tail : Bytes) : Except BadCut (Option (Bytes × Bytes)) :=
  match tail.idxOf? semicolon with
  | none => .ok none
  | some offset => do
    let (body, _) ← cut tail offset
    if body ≠ [] ∧ body.length ≤ 32 ∧ body.all isBodyByte then
      match resolve? (body.map fun byte => Char.ofNat byte.toNat) with
      | some value =>
        let (_, rest) ← cut tail (body.length + 1)
        return some (encode value, rest)
      | none => return none
    else return none

/-- One jump: what is put out up to the next ampersand and for it, and the bytes that are left. -/
def jump (bytes : Bytes) : Except BadCut (Option (Bytes × Bytes)) :=
  match bytes.idxOf? ampersand with
  | none => .ok none
  | some offset => do
    let (plain, _) ← cut bytes offset
    let (_, tail) ← cut bytes (offset + 1)
    match ← cutReference tail with
    | some (value, rest) => return some (plain ++ value, rest)
    | none => return some (plain ++ [ampersand], tail)

theorem cut_length {bytes front rest : Bytes} {offset : Nat}
    (made : cut bytes offset = .ok (front, rest)) : rest.length = bytes.length - offset := by
  unfold cut at made
  split at made
  · rw [List.splitAt_eq] at made
    cases made
    exact List.length_drop
  · cases made

theorem cut_reference_length {tail value rest : Bytes}
    (found : cutReference tail = .ok (some (value, rest))) : rest.length ≤ tail.length := by
  unfold cutReference at found
  split at found
  · cases found
  · obtain ⟨⟨body, _⟩, -, found⟩ := bind_ok found
    dsimp only at found
    split at found
    · split at found
      · obtain ⟨⟨_, after⟩, made, same⟩ := bind_ok found
        cases same
        exact cut_length made ▸ Nat.sub_le _ _
      · cases found
    · cases found

theorem jump_length {bytes out rest : Bytes} (jumped : jump bytes = .ok (some (out, rest))) :
    rest.length < bytes.length := by
  unfold jump at jumped
  split at jumped
  · cases jumped
  · rename_i offset place
    obtain ⟨inside, -⟩ := List.idxOf?_eq_some_iff.1 place
    obtain ⟨⟨plain, _⟩, -, jumped⟩ := bind_ok jumped
    obtain ⟨⟨_, tail⟩, made, jumped⟩ := bind_ok jumped
    have behind := cut_length made
    obtain ⟨reference, found, jumped⟩ := bind_ok jumped
    split at jumped
    · have within := cut_reference_length found
      cases jumped
      omega
    · cases jumped
      omega

/-- What all jumps put out, with the bytes behind the last ampersand. -/
def jumps (bytes : Bytes) : Except BadCut Bytes :=
  match jumped : jump bytes with
  | .error bad => .error bad
  | .ok none => .ok bytes
  | .ok (some (out, rest)) =>
    have := jump_length jumped
    (jumps rest).map (out ++ ·)
termination_by bytes.length

/-! ## Cuts -/

theorem index_split {Item : Type} [DecidableEq Item] {item : Item} {front : List Item}
    (missing : item ∉ front) (rest : List Item) :
    (front ++ item :: rest).idxOf? item = some front.length := by
  induction front with
  | nil => simp [List.idxOf?_cons]
  | cons first front ih =>
      have other : ¬ (first == item) = true := fun same =>
        missing (eq_of_beq same ▸ List.mem_cons_self)
      rw [List.cons_append, List.idxOf?_cons, if_neg other,
        ih fun later => missing (List.mem_cons_of_mem _ later)]
      rfl

/-- What stands before the first separator is determined. -/
theorem split_unique {Item : Type} [DecidableEq Item] {separator : Item}
    {front rest other more : List Item} (missing : separator ∉ front) (absent : separator ∉ other)
    (same : front ++ separator :: rest = other ++ separator :: more) :
    front = other ∧ rest = more := by
  have indices := congrArg (List.idxOf? separator) same
  rw [index_split missing, index_split absent, Option.some.injEq] at indices
  obtain ⟨fronts, ends⟩ := List.append_inj same indices
  exact ⟨fronts, List.tail_eq_of_cons_eq ends⟩

/-- No character begins with a byte that continues one. -/
theorem encode_char_lead (char : Char) :
    ∃ byte more, encodeChar char = byte :: more ∧ (byte < 0x80 ∨ 0xC0 ≤ byte) := by
  have valid : char.toNat < 0xD800 ∨ 0xDFFF < char.toNat ∧ char.toNat < 0x110000 := char.valid
  have lead {value : Nat} (low : 0xC0 ≤ value) (high : value < 256) :
      UInt8.ofNat value < 0x80 ∨ 0xC0 ≤ UInt8.ofNat value := by
    rw [UInt8.le_iff_toNat_le, UInt8.toNat_ofNat_of_lt' high]
    exact .inr low
  rcases encode_char_cases char with ⟨small, bytes⟩ | ⟨low, high, bytes⟩ | ⟨low, high, bytes⟩ |
    ⟨low, bytes⟩
  · refine ⟨_, _, bytes, .inl ?_⟩
    rw [UInt8.lt_iff_toNat_lt, UInt8.toNat_ofNat_of_lt' (by rw [UInt8.size]; omega)]
    exact small
  · exact ⟨_, _, bytes, lead (by omega) (by omega)⟩
  · exact ⟨_, _, bytes, lead (by omega) (by omega)⟩
  · exact ⟨_, _, bytes, lead (by omega) (by omega)⟩

theorem boundary_between (front rest : List Char) :
    isBoundary (encode front ++ encode rest) (encode front).length = true := by
  unfold isBoundary
  rw [List.getElem?_append_right (Nat.le_refl _), Nat.sub_self]
  cases rest with
  | nil => simp [encode]
  | cons char rest =>
      obtain ⟨byte, more, bytes, lead⟩ := encode_char_lead char
      have split : encode (char :: rest) = byte :: (more ++ encode rest) := by
        rw [encode, List.flatMap_cons, bytes, List.cons_append]
        rfl
      rw [split]
      simp only [List.getElem?_cons_zero, Bool.or_eq_true, decide_eq_true_eq]
      exact lead.elim (fun ascii => .inl (.inr ascii)) .inr

theorem cut_between (front rest : List Char) :
    cut (encode (front ++ rest)) (encode front).length = .ok (encode front, encode rest) := by
  rw [cut, encode_append, if_pos (boundary_between front rest), List.splitAt_eq,
    List.take_left, List.drop_left]

theorem encode_single {char : Char} (ascii : char.toNat < 0x80) :
    encode [char] = [UInt8.ofNat char.toNat] :=
  Utf8.encode_ascii fun _ member => List.mem_singleton.1 member ▸ ascii

/-- A byte of one's own is found where its character is. -/
theorem index_of_split {char : Char} (ascii : char.toNat < 0x80) {front : List Char}
    (missing : char ∉ front) (rest : List Char) :
    (encode (front ++ char :: rest)).idxOf? (UInt8.ofNat char.toNat) =
      some (encode front).length := by
  have split : encode (front ++ char :: rest) =
      encode front ++ UInt8.ofNat char.toNat :: encode rest := by
    rw [List.append_cons, encode_append, encode_append, encode_single ascii, List.append_assoc]
    rfl
  rw [split]
  exact index_split (fun member => missing (mem_of_mem_encode ascii member)) _

theorem index_missing {char : Char} (ascii : char.toNat < 0x80) {text : List Char}
    (missing : char ∉ text) : (encode text).idxOf? (UInt8.ofNat char.toNat) = none :=
  List.idxOf?_eq_none_iff.2 fun member => missing (mem_of_mem_encode ascii member)

/-- A cut one byte behind the place of an ASCII character is behind that character. -/
theorem cut_behind {char : Char} (ascii : char.toNat < 0x80) (front rest : List Char) :
    cut (encode (front ++ char :: rest)) ((encode front).length + 1) =
      .ok (encode (front ++ [char]), encode rest) := by
  have place : (encode front).length + 1 = (encode (front ++ [char])).length := by
    rw [encode_append, encode_single ascii, List.length_append]
    rfl
  rw [place, List.append_cons]
  exact cut_between _ rest

/-! ## Bodies -/

theorem body_char_ascii {char : Char} (plain : isBodyChar char = true) : char.toNat < 0x80 := by
  rcases Bool.or_eq_true_iff.1 plain with alphanumeric | hash
  · have bounds := alphanumeric_bounds alphanumeric
    omega
  · rw [eq_of_beq hash]
    decide

theorem char_of_byte {char : Char} (ascii : char.toNat < 0x80) :
    Char.ofNat (UInt8.ofNat char.toNat).toNat = char := by
  rw [UInt8.toNat_ofNat_of_lt' (by rw [UInt8.size]; omega), Char.ofNat_toNat]

/-- The bytes of a text look like a body exactly if its characters do. -/
theorem body_bytes {text : List Char} :
    (encode text).all isBodyByte = true ↔ ∀ char ∈ text, isBodyChar char = true := by
  rw [List.all_eq_true]
  constructor
  · intro plain char member
    obtain ⟨byte, more, bytes, -⟩ := encode_char_lead char
    have inBytes : byte ∈ encode text :=
      List.mem_flatMap.2 ⟨char, member, bytes ▸ List.mem_cons_self⟩
    have isPlain : isBodyChar (Char.ofNat byte.toNat) = true := plain byte inBytes
    have ascii : byte.toNat < 0x80 := by
      have small := body_char_ascii isPlain
      rwa [Utf8.code_of_value (.inl (Nat.lt_trans byte.toNat_lt (by decide)))] at small
    obtain ⟨same, charAscii⟩ := ascii_mem_encode_char ascii (bytes ▸ List.mem_cons_self)
    rwa [same, char_of_byte charAscii] at isPlain
  · intro plain byte member
    rw [Utf8.encode_ascii fun char inText => body_char_ascii (plain char inText)] at member
    obtain ⟨char, inText, rfl⟩ := List.mem_map.1 member
    rw [isBodyByte, char_of_byte (body_char_ascii (plain char inText))]
    exact plain char inText

theorem encode_body {body : List Char} (plain : ∀ char ∈ body, isBodyChar char = true) :
    encode body = body.map fun char => UInt8.ofNat char.toNat :=
  Utf8.encode_ascii fun char member => body_char_ascii (plain char member)

theorem is_body_iff {body : List Char} :
    (encode body ≠ [] ∧ (encode body).length ≤ 32 ∧ (encode body).all isBodyByte = true) ↔
      IsBody body := by
  rw [body_bytes]
  constructor
  · rintro ⟨nonempty, short, plain⟩
    rw [encode_body plain] at nonempty short
    rw [List.length_map] at short
    exact ⟨fun empty => nonempty (empty ▸ rfl), short, plain⟩
  · rintro ⟨nonempty, short, plain⟩
    rw [encode_body plain, List.length_map]
    exact ⟨fun empty => nonempty (List.map_eq_nil_iff.1 empty), short, plain⟩

theorem body_chars {body : List Char} (isBody : IsBody body) :
    (encode body).map (fun byte => Char.ofNat byte.toNat) = body := by
  rw [encode_body isBody.plain, List.map_map]
  calc
    _ = body.map id := List.map_congr_left fun char member =>
        char_of_byte (body_char_ascii (isBody.plain char member))
    _ = body := List.map_id body

/-! ## Jumps -/

theorem semicolon_outside {body : List Char} (isBody : IsBody body) : ';' ∉ body := fun member =>
  absurd (isBody.plain ';' member) (by decide)

/-- Between the ampersand and the first semicolon the bytes are cut as the characters are split. -/
theorem cut_reference_encode (tail : List Char) :
    cutReference (encode tail) =
      .ok ((reference? tail).map fun found => (encode found.1, encode found.2)) := by
  by_cases closed : ';' ∈ tail
  · obtain ⟨body, rest, rfl, missing⟩ := List.eq_append_cons_of_mem closed
    have place : (encode (body ++ ';' :: rest)).idxOf? semicolon = some (encode body).length :=
      index_of_split (by decide) missing rest
    have unreferenced (failed : ¬ (IsBody body ∧ resolve? body ≠ none)) :
        reference? (body ++ ';' :: rest) = none := by
      rw [reference_none_iff]
      rintro other value after ⟨spelled, isBody, resolved⟩
      obtain ⟨rfl, -⟩ := split_unique missing (semicolon_outside isBody)
        (List.tail_eq_of_cons_eq spelled)
      exact failed ⟨isBody, by simp [resolved]⟩
    rw [cutReference, place]
    dsimp only
    rw [cut_between]
    dsimp only [bind, Except.bind]
    by_cases isBody : IsBody body
    · rw [if_pos (is_body_iff.2 isBody), body_chars isBody]
      cases resolved : resolve? body with
      | none =>
          rw [unreferenced fun found => found.2 resolved]
          rfl
      | some value =>
          rw [reference_iff.2 ⟨body, rfl, isBody, resolved⟩]
          dsimp only
          rw [cut_behind (by decide)]
          rfl
    · rw [if_neg fun found => isBody (is_body_iff.1 found),
        unreferenced fun found => isBody found.1]
      rfl
  · have nowhere : (encode tail).idxOf? semicolon = none := index_missing (by decide) closed
    have unreferenced : reference? tail = none := by
      rw [reference_none_iff]
      rintro body value rest ⟨spelled, -, -⟩
      rw [List.tail_eq_of_cons_eq spelled] at closed
      exact closed (List.mem_append_right _ List.mem_cons_self)
    rw [cutReference, nowhere, unreferenced]
    rfl

theorem jump_encode {front : List Char} (missing : '&' ∉ front) (tail : List Char) :
    jump (encode (front ++ '&' :: tail)) = .ok (some (match reference? tail with
      | some (value, rest) => (encode (front ++ value), encode rest)
      | none => (encode (front ++ ['&']), encode tail))) := by
  have place : (encode (front ++ '&' :: tail)).idxOf? ampersand = some (encode front).length :=
    index_of_split (by decide) missing tail
  rw [jump, place]
  dsimp only
  rw [cut_between, cut_behind (by decide)]
  dsimp only [bind, Except.bind]
  rw [cut_reference_encode]
  cases reference? tail with
  | none =>
      rw [encode_append]
      rfl
  | some found =>
      obtain ⟨value, rest⟩ := found
      dsimp only
      rw [encode_append]
      rfl

theorem jump_finished {text : List Char} (missing : '&' ∉ text) :
    jump (encode text) = .ok none := by
  have nowhere : (encode text).idxOf? ampersand = none := index_missing (by decide) missing
  rw [jump, nowhere]

theorem jumps_finished {bytes : Bytes} (finished : jump bytes = .ok none) :
    jumps bytes = .ok bytes := by
  rw [jumps]
  split
  · rename_i other
    rw [other] at finished
    cases finished
  · rfl
  · rename_i other
    rw [other] at finished
    cases finished

theorem jumps_on {bytes out rest : Bytes} (jumped : jump bytes = .ok (some (out, rest))) :
    jumps bytes = (jumps rest).map (out ++ ·) := by
  rw [jumps]
  split
  · rename_i other
    rw [other] at jumped
    cases jumped
  · rename_i other
    rw [other] at jumped
    cases jumped
  · rename_i other
    rw [other] at jumped
    cases jumped
    rfl

theorem unescape_front {front : List Char} (missing : '&' ∉ front) (text : List Char) :
    unescapeChars (front ++ text) = front ++ unescapeChars text := by
  induction front with
  | nil => rfl
  | cons char front ih =>
      have plain : char ≠ '&' := fun same => missing (same ▸ List.mem_cons_self)
      rw [List.cons_append, unescape_plain plain,
        ih fun member => missing (List.mem_cons_of_mem _ member)]
      rfl

/-- On the bytes of a text every jump ends between characters, and all jumps together put out the
bytes of the text without its references. -/
theorem jumps_encode (text : List Char) :
    jumps (encode text) = .ok (encode (unescapeChars text)) := by
  induction length : text.length using Nat.strongRecOn generalizing text with
  | ind bound ih =>
      by_cases referenced : '&' ∈ text
      · obtain ⟨front, tail, rfl, missing⟩ := List.eq_append_cons_of_mem referenced
        have jumped := jump_encode missing tail
        rw [List.length_append, List.length_cons] at length
        rw [unescape_front missing]
        cases found : reference? tail with
        | none =>
            rw [found] at jumped
            rw [jumps_on jumped, ih tail.length (by omega) tail rfl, unescape_failed found,
              Except.map, ← encode_append, List.append_assoc]
            rfl
        | some reference =>
            obtain ⟨value, rest⟩ := reference
            have shorter := reference?_length found
            rw [found] at jumped
            rw [jumps_on jumped, ih rest.length (by omega) rest rfl, unescape_reference found,
              Except.map, ← encode_append, List.append_assoc]
      · have plain := unescape_front referenced []
        rw [unescape_nil, List.append_nil] at plain
        rw [jumps_finished (jump_finished referenced), plain]

/-! ## One pass -/

/-- A text is read once, from its beginning to its end. Where a reference begins that can be
resolved, its value is put out and not read again; anywhere else one character is copied, so that a
reference inside a failed one is still resolved and a text without references stays as it is. On
the bytes of the text no jump ends inside a character, and the jumps come to an end. -/
theorem references_resolved_in_one_pass (text : String) :
    (∀ out, (unescape text).toList = out ↔ Scanned text.toList out) ∧
      (∀ body value rest, ReferenceAt text.toList body value rest →
        (unescape text).toList = value ++ unescapeChars rest) ∧
      (∀ tail, text.toList = '&' :: tail → Unreferenced text.toList →
        (unescape text).toList = '&' :: unescapeChars tail) ∧
      ((∀ rest, rest <:+ text.toList → Unreferenced rest) → unescape text = text) ∧
      jumps (Bytes.ofString text) = .ok (Bytes.ofString (unescape text)) := by
  have chars : (unescape text).toList = unescapeChars text.toList := String.toList_ofList
  refine ⟨?scan, ?resolved, ?failed, ?unreferenced, ?bytes⟩
  case scan =>
    intro out
    rw [chars]
    constructor
    · rintro rfl
      exact scanned_unescape text.toList
    · exact unescape_of_scanned
  case resolved =>
    intro body value rest reference
    rw [chars, unescape_resolved reference]
  case failed =>
    intro tail spelled unreferenced
    rw [spelled] at unreferenced
    rw [chars, spelled, unescape_copied unreferenced]
  case unreferenced =>
    intro unreferenced
    rw [unescape, unescape_unreferenced unreferenced, String.ofList_toList]
  case bytes =>
    rw [Bytes.ofString, Bytes.ofString, chars]
    exact jumps_encode text.toList

example : unescape "R&D &&#x41;&amp;lt;" = "R&D &A&lt;" := by cbv

end Checkup.Text.Entity
