import Checkup.Proofs.Terminal.Carets
import Checkup.Proofs.Text.Lossy
import Checkup.Proofs.Text.Separated

/-!
# Texts of rows

Rows are counted among the bytes of a content, and their texts are the lines of the decoded content.
Decoding neither makes nor loses a line feed or a carriage return, whatever it replaces, so the
bytes of each row can be cut out first and decoded by themselves. The text of an empty last row is
missing among the lines, and a missing text is empty.
-/

namespace Checkup

namespace Text.Utf8

/-! ## Characters of one byte in lossy text -/

variable {byte : UInt8} (ascii : byte.toNat < 0x80) {bytes : Bytes}

theorem decode_lossy_eq_nil_iff : decodeLossy bytes = [] ↔ bytes = [] := by
  constructor
  · intro nothing
    cases bytes with
    | nil => rfl
    | cons first rest =>
        cases begun : head (first :: rest) with
        | nothing => exact absurd begun (head_something _ _)
        | scalar char later =>
            rw [decode_lossy_scalar begun] at nothing
            cases nothing
        | broken later =>
            rw [decode_lossy_broken begun] at nothing
            cases nothing
  · rintro rfl
    exact decode_lossy_nil

include ascii

theorem encode_ascii_char : encodeChar (Char.ofNat byte.toNat) = [byte] := by
  have code := code_of_value (.inl (by omega) : byte.toNat.isValidChar)
  rw [encodeChar, code]
  simp only [ascii, if_true, UInt8.ofNat_toNat]

/-- A character of one byte is in the text only if its byte was there. -/
theorem byte_of_lossy_char (member : Char.ofNat byte.toNat ∈ decodeLossy bytes) : byte ∈ bytes := by
  apply mem_of_mem_restored ascii
  exact List.mem_flatMap.2
    ⟨_, member, by rw [encode_ascii_char ascii]; exact List.mem_cons_self⟩

/-- A text ends with a character of one byte if its bytes end with that byte. -/
theorem lossy_last_iff :
    (decodeLossy bytes).getLast? = some (Char.ofNat byte.toNat) ↔ bytes.getLast? = some byte := by
  have code := code_of_value (.inl (by omega) : byte.toNat.isValidChar)
  constructor
  · intro last
    fun_induction decodeLossy bytes with
    | case1 => cases last
    | case2 bytes rest begun _ ih =>
        by_cases ended : rest = []
        · -- Nothing is behind the replacement character, which is no character of one byte.
          subst ended
          rw [decode_lossy_nil] at last
          have same : replacement = Char.ofNat byte.toNat := Option.some.inj last
          have large := congrArg Char.toNat same
          rw [code] at large
          exact absurd (large ▸ ascii) (by decide)
        · rw [List.getLast?_cons_of_ne_nil (mt decode_lossy_eq_nil_iff.1 ended)] at last
          obtain ⟨front, split⟩ := head_broken_suffix begun
          rw [← split, List.getLast?_append, ih last, Option.some_or]
    | case3 bytes char rest begun _ ih =>
        rw [head_scalar_bytes begun]
        by_cases ended : rest = []
        · subst ended
          rw [decode_lossy_nil] at last
          have same : char = Char.ofNat byte.toNat := Option.some.inj last
          rw [same, encode_ascii_char ascii]
          rfl
        · rw [List.getLast?_cons_of_ne_nil (mt decode_lossy_eq_nil_iff.1 ended)] at last
          rw [List.getLast?_append, ih last, Option.some_or]
  · intro last
    obtain ⟨front, rfl⟩ := List.getLast?_eq_some_iff.1 last
    rw [decode_lossy_split ascii, decode_lossy_nil, List.getLast?_concat]

end Text.Utf8

namespace Terminal

open Text.Utf8 (decodeLossy decode_lossy_nil decode_lossy_split decode_lossy_eq_nil_iff)

/-! ## The bytes of a row -/

def carriageReturn : UInt8 := 0x0D

/-- The bytes of a line without one carriage return at their end. -/
def stripReturn (line : Bytes) : Bytes :=
  if line.getLast? = some carriageReturn then line.dropLast else line

/-- The bytes of a row, given where it starts: up to the next newline, which takes a carriage
return before it along, or to the end of the content. -/
def rowBytes (content : Bytes) (start : Nat) : Bytes :=
  let line := (content.drop start).takeWhile (· != newline)
  if newline ∈ content.drop start then stripReturn line else line

/-- A content cut at its newlines. -/
def byteRows (content : Bytes) : List Bytes :=
  let pieces := content.splitOn newline
  pieces.dropLast.map stripReturn ++ pieces.getLast?.toList

theorem newline_ascii : newline.toNat < 0x80 := by decide

theorem newline_of_decoded {bytes : Bytes} (member : '\n' ∈ decodeLossy bytes) : newline ∈ bytes :=
  Text.Utf8.byte_of_lossy_char newline_ascii member

/-- A carriage return is dropped from the text of a line if it is stripped from its bytes. -/
theorem drop_return_decoded (line : Bytes) :
    dropReturn (decodeLossy line) = decodeLossy (stripReturn line) := by
  have ascii : carriageReturn.toNat < 0x80 := by decide
  have last : (decodeLossy line).getLast? = some '\r' ↔ line.getLast? = some carriageReturn :=
    Text.Utf8.lossy_last_iff ascii
  unfold dropReturn stripReturn
  by_cases returned : line.getLast? = some carriageReturn
  · rw [if_pos (last.2 returned), if_pos returned]
    obtain ⟨front, rfl⟩ := List.getLast?_eq_some_iff.1 returned
    rw [decode_lossy_split ascii, decode_lossy_nil, List.dropLast_concat, List.dropLast_concat]
  · rw [if_neg (mt last.1 returned), if_neg returned]

theorem newline_not_in_row (content : Bytes) (start : Nat) : newline ∉ rowBytes content start := by
  have line : newline ∉ (content.drop start).takeWhile (· != newline) := fun member => by
    simpa using List.mem_takeWhile_imp member
  unfold rowBytes stripReturn
  dsimp only
  split
  · split
    · exact fun member => line (List.dropLast_subset _ member)
    · exact line
  · exact line

/-! ## One line after the other -/

section Mark

variable {Item : Type} [DecidableEq Item] {mark : Item} {front : List Item} (clean : mark ∉ front)

include clean

theorem before_mark (rest : List Item) :
    (front ++ mark :: rest).takeWhile (· != mark) = front ∧
      (front ++ mark :: rest).dropWhile (· != mark) = mark :: rest := by
  have plain : ∀ item ∈ front, (item != mark) = true :=
    fun item member => bne_iff_ne.2 fun same => clean (same ▸ member)
  rw [List.takeWhile_append_of_pos plain, List.dropWhile_append_of_pos plain,
    List.takeWhile_cons_of_neg (by simp), List.dropWhile_cons_of_neg (by simp), List.append_nil]
  exact ⟨rfl, rfl⟩

theorem without_mark : front.takeWhile (· != mark) = front ∧ front.dropWhile (· != mark) = [] := by
  have plain : ∀ item ∈ front, (item != mark) = true :=
    fun item member => bne_iff_ne.2 fun same => clean (same ▸ member)
  exact ⟨List.takeWhile_eq_self_iff.2 plain, List.dropWhile_eq_nil_iff.2 plain⟩

end Mark

section Line

variable {line : Bytes} (clean : newline ∉ line) (more : Bytes)

include clean

theorem text_lines_last : textLines (decodeLossy line) =
    if line = [] then [] else [decodeLossy line] := by
  obtain ⟨whole, nothing⟩ := without_mark (mt newline_of_decoded clean)
  cases decoded : decodeLossy line with
  | nil => rw [if_pos (decode_lossy_eq_nil_iff.1 decoded), textLines]
  | cons char rest =>
      have some : line ≠ [] := by
        rintro rfl
        rw [decode_lossy_nil] at decoded
        cases decoded
      rw [decoded] at whole nothing
      rw [if_neg some, textLines, whole]
      split
      · rfl
      · rename_i found
        rw [nothing] at found
        cases found

theorem text_lines_cut : textLines (decodeLossy (line ++ newline :: more)) =
    decodeLossy (stripReturn line) :: textLines (decodeLossy more) := by
  have feed : Char.ofNat newline.toNat = '\n' := rfl
  obtain ⟨taken, left⟩ := before_mark (mt newline_of_decoded clean) (decodeLossy more)
  rw [decode_lossy_split newline_ascii, feed, ← drop_return_decoded]
  cases text : decodeLossy line ++ '\n' :: decodeLossy more with
  | nil => exact absurd (List.append_eq_nil_iff.1 text).2 (List.cons_ne_nil _ _)
  | cons char rest =>
      rw [text] at taken left
      rw [textLines, taken]
      split
      · rename_i found
        rw [left] at found
        cases found
      · rename_i found
        rw [left] at found
        cases found
        rfl

theorem starts_behind_clean (offset : Nat) :
    startsBehind offset (line ++ more) = startsBehind (offset + line.length) more := by
  induction line generalizing offset with
  | nil => rfl
  | cons byte rest ih =>
      obtain ⟨other, later⟩ := not_or.1 (mt List.mem_cons.2 clean)
      rw [List.cons_append, startsBehind, if_neg (Ne.symm other), ih later, List.length_cons,
        Nat.add_assoc, Nat.add_comm 1]

omit clean in
theorem starts_behind_moved (offset distance : Nat) :
    startsBehind (offset + distance) more = (startsBehind offset more).map (· + distance) := by
  induction more generalizing offset with
  | nil => rfl
  | cons byte rest ih =>
      have next : offset + distance + 1 = offset + 1 + distance := by omega
      rw [startsBehind, startsBehind, next, ih]
      split
      · rfl
      · rfl

theorem line_starts_cut : lineStarts (line ++ newline :: more) =
    0 :: (lineStarts more).map (· + (line.length + 1)) := by
  rw [lineStarts, starts_behind_clean clean, startsBehind, if_pos rfl, Nat.zero_add, lineStarts,
    List.map_cons, ← starts_behind_moved]
  simp only [Nat.zero_add]

theorem row_bytes_first : rowBytes (line ++ newline :: more) 0 = stripReturn line := by
  unfold rowBytes
  dsimp only
  rw [List.drop_zero, if_pos (List.mem_append_right _ List.mem_cons_self),
    (before_mark clean more).1]

omit clean in
theorem row_bytes_behind (start : Nat) :
    rowBytes (line ++ newline :: more) (start + (line.length + 1)) = rowBytes more start := by
  have behind : (line ++ newline :: more).drop (start + (line.length + 1)) = more.drop start := by
    rw [Nat.add_comm, ← List.drop_drop, ← List.drop_drop, List.drop_left]
    rfl
  unfold rowBytes
  rw [behind]

theorem row_bytes_only : rowBytes line 0 = line := by
  unfold rowBytes
  dsimp only
  rw [List.drop_zero, if_neg clean, (without_mark clean).1]

theorem byte_rows_cut :
    byteRows (line ++ newline :: more) = stripReturn line :: byteRows more := by
  have pieces : (line ++ newline :: more).splitOn newline = line :: more.splitOn newline := by
    rw [List.splitOn_append_cons_self, List.splitOn_eq_singleton clean]
    rfl
  have some : more.splitOn newline ≠ [] := List.splitOn_ne_nil _ _
  unfold byteRows
  dsimp only
  rw [pieces, List.dropLast_cons_of_ne_nil some, List.getLast?_cons_of_ne_nil some]
  rfl

end Line

/-! ## Rows and their bytes -/

/-- The rows from their starts are the pieces of the content. -/
theorem row_bytes_of_starts (content : Bytes) :
    (lineStarts content).map (rowBytes content) = byteRows content := by
  induction content using Text.split_induction newline with
  | whole line clean =>
      have starts : lineStarts line = [0] := by
        have behind := starts_behind_clean clean [] 0
        rw [List.append_nil] at behind
        rw [lineStarts, behind]
        rfl
      have pieces : line.splitOn newline = [line] := List.splitOn_eq_singleton clean
      rw [starts, byteRows, pieces, List.map_singleton, row_bytes_only clean]
      rfl
  | split line more clean ih =>
      rw [line_starts_cut clean, List.map_cons, row_bytes_first clean, byte_rows_cut clean,
        List.map_map, ← ih]
      congr 1
      exact List.map_congr_left fun start _ => row_bytes_behind more start

/-- The rows that have a line in the text: all but an empty last one. -/
def keptRows (rows : List Bytes) : List Bytes :=
  if rows.getLast? = some [] then rows.dropLast else rows

theorem kept_rows_cons (row : Bytes) {rows : List Bytes} (more : rows ≠ []) :
    keptRows (row :: rows) = row :: keptRows rows := by
  unfold keptRows
  rw [List.getLast?_cons_of_ne_nil more, List.dropLast_cons_of_ne_nil more]
  split
  · rfl
  · rfl

/-- A row without a line has no bytes. -/
theorem kept_rows_at {rows : List Bytes} {row : Nat} {bytes : Bytes} (own : rows[row]? = some bytes) :
    ((keptRows rows)[row]?).getD [] = bytes := by
  unfold keptRows
  split
  · rename_i empty
    obtain ⟨front, rfl⟩ := List.getLast?_eq_some_iff.1 empty
    rw [List.dropLast_concat]
    by_cases inside : row < front.length
    · rw [List.getElem?_append_left inside] at own
      rw [own, Option.getD_some]
    · have last := (List.getElem?_eq_some_iff.1 own).1
      rw [List.length_append, List.length_singleton] at last
      obtain rfl : row = front.length := by omega
      rw [List.getElem?_concat_length] at own
      rw [List.getElem?_eq_none (Nat.le_refl _), Option.getD_none]
      exact Option.some.inj own
  · rw [own, Option.getD_some]

theorem byte_rows_ne_nil (content : Bytes) : byteRows content ≠ [] := by
  have some : content.splitOn newline ≠ [] := List.splitOn_ne_nil _ _
  intro nothing
  obtain ⟨-, last⟩ := List.append_eq_nil_iff.1 nothing
  rw [List.getLast?_eq_some_getLast some] at last
  cases last

/-- The lines of the decoded content are the rows of the content, each decoded by itself. -/
theorem lines_of_rows (content : Bytes) :
    textLines (decodeLossy content) = (keptRows (byteRows content)).map decodeLossy := by
  induction content using Text.split_induction newline with
  | whole line clean =>
      have pieces : byteRows line = [line] := by
        rw [byteRows, List.splitOn_eq_singleton clean]
        rfl
      rw [text_lines_last clean, pieces]
      by_cases empty : line = []
      · rw [if_pos empty, empty]
        rfl
      · have shown : [line].getLast? ≠ some [] := fun last => empty (Option.some.inj last)
        rw [if_neg empty, keptRows, if_neg shown]
        rfl
  | split line more clean ih =>
      rw [text_lines_cut clean, byte_rows_cut clean, kept_rows_cons _ (byte_rows_ne_nil more), ih,
        List.map_cons]

namespace Page

/-- The text of a row as the gutter shows it. -/
def rowText (page : Page) (row : Nat) : String := (page.lines[row]?).getD ""

variable (label : String) (content : Bytes) (interactive color : Bool)

theorem row_text_decoded {row : Nat} {bytes : Bytes} (own : (byteRows content)[row]? = some bytes) :
    (ofBytes label content interactive color).rowText row = bytes.toLossyString := by
  have kept := kept_rows_at own
  change (((textLines (decodeLossy content)).map String.ofList)[row]?).getD "" = _
  rw [lines_of_rows, List.getElem?_map, List.getElem?_map, Bytes.toLossyString, ← kept]
  cases (keptRows (byteRows content))[row]? with
  | none => rw [Option.getD_none, decode_lossy_nil]; rfl
  | some line => rfl

end Page

end Terminal

end Checkup
