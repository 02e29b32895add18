import Checkup.Encoding.Decode
import Checkup.Proofs.Text.Lossy

/-!
# Line feeds in decoded bytes

No decoder makes a line feed out of bytes that have none. The byte of a line feed stands for itself,
alone or as one half of a unit of UTF-16. All else that is decoded is a character of a table or has
a code above ASCII, and the tables hold no line feed in any of their cells.
-/

namespace Checkup.Encoding

open Text.Utf8 (code_of_value)

/-! ## Characters -/

/-- A code that is no character gives the zero character, so a line feed comes from its own code. -/
theorem feed_code {code : Nat} (feed : Char.ofNat code = '\n') : code = 10 := by
  by_cases valid : code.isValidChar
  · have value := congrArg Char.toNat feed
    rw [code_of_value valid] at value
    exact value
  · have zero : Char.ofNat code = Char.ofNat 0 := by
      rw [Char.ofNat, dif_neg valid]
      rfl
    rw [zero] at feed
    exact absurd feed (by decide)

theorem feed_byte {byte : UInt8} (feed : Char.ofNat byte.toNat = '\n') : byte = 10 :=
  UInt8.toNat_inj.1 (feed_code feed)

theorem katakana_feedless (byte : UInt8) : halfWidthKatakana byte ≠ '\n' := by
  intro feed
  have code := feed_code feed
  omega

/-! ## Tables -/

def Feedless (row : String) : Prop := '\n' ∉ row.toList

theorem feedless_of_chars {chars : List Char}
    (clean : (chars.all fun char => Nat.blt 10 char.toNat) = true) :
    Feedless (String.ofList chars) := by
  rw [Feedless, String.toList_ofList]
  intro member
  exact absurd (List.all_eq_true.1 clean _ member) (by decide)

theorem Feedless.append {row next : String} (feedless : Feedless row) (feedlessToo : Feedless next) :
    Feedless (row ++ next) := by
  rw [Feedless, String.toList_append, List.mem_append]
  exact fun feed => feed.elim feedless feedlessToo

theorem controls_feedless : Feedless SingleByte.controls := by
  refine Feedless.append ?_ ?_
  all_goals
    apply feedless_of_chars
    decide +kernel

theorem upper_half_feedless (table : SingleByte) : Feedless table.upperHalf := by
  cases table
  all_goals
    refine Feedless.append (Feedless.append (Feedless.append ?_ ?_) ?_) ?_
    all_goals
      first
      | with_reducible exact controls_feedless
      | apply feedless_of_chars
        decide +kernel

set_option maxRecDepth 4000 in
theorem gb18030_feedless : ∀ row ∈ Index.gb18030, Feedless row := by
  -- Row by row, as all tables: as a whole they are too large for one evaluation.
  unfold Index.gb18030
  repeat
    refine List.forall_mem_cons.2 ⟨?_, ?_⟩
    · apply feedless_of_chars
      decide +kernel
  exact nofun

set_option maxRecDepth 4000 in
theorem big5_feedless : ∀ row ∈ Index.big5, Feedless row := by
  unfold Index.big5
  repeat
    refine List.forall_mem_cons.2 ⟨?_, ?_⟩
    · apply feedless_of_chars
      decide +kernel
  exact nofun

set_option maxRecDepth 4000 in
theorem jis0208_feedless : ∀ row ∈ Index.jis0208, Feedless row := by
  unfold Index.jis0208
  repeat
    refine List.forall_mem_cons.2 ⟨?_, ?_⟩
    · apply feedless_of_chars
      decide +kernel
  exact nofun

set_option maxRecDepth 4000 in
theorem jis0212_feedless : ∀ row ∈ Index.jis0212, Feedless row := by
  unfold Index.jis0212
  repeat
    refine List.forall_mem_cons.2 ⟨?_, ?_⟩
    · apply feedless_of_chars
      decide +kernel
  exact nofun

set_option maxRecDepth 4000 in
theorem euc_kr_feedless : ∀ row ∈ Index.eucKr, Feedless row := by
  unfold Index.eucKr
  repeat
    refine List.forall_mem_cons.2 ⟨?_, ?_⟩
    · apply feedless_of_chars
      decide +kernel
  exact nofun

theorem gb18030_runs_foreign : ∀ run ∈ Index.gb18030Runs, 0x80 ≤ run.2 := by decide +kernel

/-- The cells of a grid are characters of its rows. -/
theorem cell_feedless {width first : Nat} {rows : List String}
    (feedless : ∀ row ∈ rows, Feedless row) {pointer : Nat} {char : Char}
    (found : (Grid.ofRows width first rows).cell? pointer = some char) : char ≠ '\n' := by
  unfold Grid.cell? Grid.ofRows at found
  dsimp only at found
  split at found
  · cases found
  · split at found
    · cases found
    · rename_i cells inRow
      split at found
      · rename_i cell inCell
        split at found
        · cases found
        · cases found
          rintro rfl
          rw [List.getElem?_toArray, List.getElem?_map] at inRow
          obtain ⟨row, present, rfl⟩ := Option.map_eq_some_iff.1 inRow
          rw [List.getElem?_toArray] at inCell
          exact feedless row (List.mem_of_getElem? present) (List.mem_of_getElem? inCell)
      · cases found

/-! ## Decoders -/

/-- A decoder that makes a line feed out of the byte of a line feed only. -/
def FeedsFromBytes (decode : Bytes → Option (List Char)) : Prop :=
  ∀ bytes text, decode bytes = some text → '\n' ∈ text → 10 ∈ bytes

/-- One step of a decoder: the bytes in front stand for a character, and the rest is decoded. -/
theorem feed_step {front rest : Bytes} {char : Char} {decoded : Option (List Char)}
    {text : List Char} (ih : ∀ later, decoded = some later → '\n' ∈ later → 10 ∈ rest)
    (own : char = '\n' → 10 ∈ front) (step : decoded.map (char :: ·) = some text)
    (member : '\n' ∈ text) : 10 ∈ front ++ rest := by
  obtain ⟨later, read, rfl⟩ := Option.map_eq_some_iff.1 step
  rcases List.mem_cons.1 member with here | behind
  · exact List.mem_append_left _ (own here.symm)
  · exact List.mem_append_right _ (ih later read behind)

theorem feed_step_ascii {byte : UInt8} {rest : Bytes} {decoded : Option (List Char)}
    {text : List Char} (ih : ∀ later, decoded = some later → '\n' ∈ later → 10 ∈ rest)
    (step : decoded.map (Char.ofNat byte.toNat :: ·) = some text) (member : '\n' ∈ text) :
    10 ∈ byte :: rest :=
  @feed_step [byte] rest _ _ _ ih (fun feed => List.mem_singleton.2 (feed_byte feed).symm) step member

theorem feed_step_foreign (front : Bytes) {rest : Bytes} {char : Char}
    {decoded : Option (List Char)} {text : List Char}
    (ih : ∀ later, decoded = some later → '\n' ∈ later → 10 ∈ rest) (foreign : char ≠ '\n')
    (step : decoded.map (char :: ·) = some text) (member : '\n' ∈ text) : 10 ∈ front ++ rest :=
  feed_step ih (fun feed => absurd feed foreign) step member

theorem single_byte_feeds (table : SingleByte) : FeedsFromBytes table.decode? := by
  intro bytes
  induction bytes with
  | nil =>
      intro text decoded member
      cases decoded
      exact nomatch member
  | cons byte rest ih =>
      intro text decoded member
      rw [SingleByte.decode?, List.mapM_cons] at decoded
      obtain ⟨char, read, decoded⟩ := Option.bind_eq_some_iff.1 decoded
      obtain ⟨later, readRest, same⟩ := Option.bind_eq_some_iff.1 decoded
      cases same
      rcases List.mem_cons.1 member with rfl | behind
      · unfold SingleByte.decodeByte? at read
        split at read
        · rw [feed_byte (Option.some.inj read)]
          exact List.mem_cons_self
        · split at read
          · rename_i cell inTable
            split at read
            · cases read
            · cases read
              exact absurd (List.mem_of_getElem? inTable) (upper_half_feedless table)
          · cases read
      · exact List.mem_cons_of_mem _ (ih later readRest behind)

theorem gb18030_two_bytes {lead trail : UInt8} {char : Char}
    (read : Gb18030.twoByte? lead trail = some char) : char ≠ '\n' := by
  unfold Gb18030.twoByte? at read
  dsimp only at read
  split at read
  · exact cell_feedless gb18030_feedless read
  · cases read

theorem gb18030_four_bytes {first second third fourth : UInt8} {char : Char}
    (read : Gb18030.fourByte? first second third fourth = some char) : char ≠ '\n' := by
  unfold Gb18030.fourByte? at read
  dsimp only at read
  split at read
  · obtain ⟨code, numbered, rfl⟩ := Option.map_eq_some_iff.1 read
    intro feed
    have value := feed_code feed
    unfold Gb18030.fourByteCode? at numbered
    split at numbered
    · cases numbered
    · split at numbered
      · cases numbered
        omega
      · obtain ⟨run, found, same⟩ := Option.map_eq_some_iff.1 numbered
        have inTable : run ∈ Index.gb18030Runs :=
          (List.takeWhile_prefix _).subset (List.mem_of_getLast? found)
        have foreign := gb18030_runs_foreign run inTable
        omega
  · cases read

theorem gb18030_feeds : FeedsFromBytes Gb18030.decode? := by
  intro bytes text decoded member
  fun_induction Gb18030.decode? bytes generalizing text with
  | case1 =>
      cases decoded
      exact nomatch member
  | case2 _ _ _ ih => exact feed_step_ascii ih decoded member
  | case3 _ _ ih => exact feed_step_foreign [_] ih (by decide) decoded member
  | case6 _ _ _ _ _ _ _ _ _ _ read ih =>
      exact feed_step_foreign [_, _, _, _] ih (gb18030_four_bytes read) decoded member
  | case9 _ _ _ _ _ _ _ _ read ih =>
      exact feed_step_foreign [_, _] ih (gb18030_two_bytes read) decoded member
  | _ => cases decoded

theorem big5_pair {pointer : Nat} {chars : List Char} (pair : Big5.pair? pointer = some chars) :
    '\n' ∉ chars := by
  unfold Big5.pair? at pair
  split at pair
  · cases pair
    decide
  · split at pair
    · cases pair
      decide
    · split at pair
      · cases pair
        decide
      · split at pair
        · cases pair
          decide
        · cases pair

theorem big5_two_bytes {lead trail : UInt8} {chars : List Char}
    (read : Big5.twoByte? lead trail = some chars) : '\n' ∉ chars := by
  unfold Big5.twoByte? at read
  dsimp only at read
  split at read
  · split at read
    · rename_i pair
      rw [← Option.some.inj read]
      exact big5_pair pair
    · obtain ⟨char, cell, rfl⟩ := Option.map_eq_some_iff.1 read
      exact fun member => cell_feedless big5_feedless cell (List.mem_singleton.1 member).symm
  · cases read

theorem big5_feeds : FeedsFromBytes Big5.decode? := by
  intro bytes text decoded member
  fun_induction Big5.decode? bytes generalizing text with
  | case1 =>
      cases decoded
      exact nomatch member
  | case2 _ _ _ ih => exact feed_step_ascii ih decoded member
  | case5 _ _ _ _ _ _ read ih =>
      obtain ⟨later, readRest, rfl⟩ := Option.map_eq_some_iff.1 decoded
      have behind := (List.mem_append.1 member).resolve_left (big5_two_bytes read)
      exact List.mem_cons_of_mem _ (List.mem_cons_of_mem _ (ih later readRest behind))
  | _ => cases decoded

theorem shift_jis_cell {pointer : Nat} {char : Char} (found : ShiftJis.cell? pointer = some char) :
    char ≠ '\n' := by
  unfold ShiftJis.cell? at found
  split at found
  · rw [← Option.some.inj found]
    intro feed
    have code := feed_code feed
    omega
  · exact cell_feedless jis0208_feedless found

theorem shift_jis_two_bytes {lead trail : UInt8} {char : Char}
    (read : ShiftJis.twoByte? lead trail = some char) : char ≠ '\n' := by
  unfold ShiftJis.twoByte? at read
  dsimp only at read
  split at read
  · exact shift_jis_cell read
  · cases read

theorem shift_jis_feeds : FeedsFromBytes ShiftJis.decode? := by
  intro bytes text decoded member
  fun_induction ShiftJis.decode? bytes generalizing text with
  | case1 =>
      cases decoded
      exact nomatch member
  | case2 _ _ _ ih => exact feed_step_ascii ih decoded member
  | case3 _ _ _ _ ih => exact feed_step_foreign [_] ih (katakana_feedless _) decoded member
  | case6 _ _ _ _ _ _ _ read ih =>
      exact feed_step_foreign [_, _] ih (shift_jis_two_bytes read) decoded member
  | _ => cases decoded

theorem euc_jp_feeds : FeedsFromBytes EucJp.decode? := by
  intro bytes text decoded member
  fun_induction EucJp.decode? bytes generalizing text with
  | case1 =>
      cases decoded
      exact nomatch member
  | case2 _ _ _ ih => exact feed_step_ascii ih decoded member
  | case3 _ _ _ _ ih => exact feed_step_foreign [_, _] ih (katakana_feedless _) decoded member
  | case6 _ _ _ _ _ read _ _ ih =>
      exact feed_step_foreign [_, _, _] ih (cell_feedless jis0212_feedless read) decoded member
  | case10 _ _ _ _ _ _ _ _ read ih =>
      exact feed_step_foreign [_, _] ih (cell_feedless jis0208_feedless read) decoded member
  | _ => cases decoded

theorem roman_feed {byte : UInt8} (feed : Iso2022Jp.romanChar byte = '\n') : byte = 10 := by
  unfold Iso2022Jp.romanChar at feed
  split at feed
  · exact absurd feed (by decide)
  · split at feed
    · exact absurd feed (by decide)
    · exact feed_byte feed

theorem iso_2022_jp_feeds (charset : Iso2022Jp.Charset) (escaped : Bool) :
    FeedsFromBytes (Iso2022Jp.decodeFrom? charset escaped) := by
  intro bytes text decoded member
  fun_induction Iso2022Jp.decodeFrom? charset escaped bytes generalizing text with
  | case1 =>
      cases decoded
      exact nomatch member
  | case3 _ _ _ _ _ _ _ _ ih =>
      have behind := ih text decoded member
      exact List.mem_cons_of_mem _ (List.mem_cons_of_mem _ (List.mem_cons_of_mem _ behind))
  | case6 _ _ _ _ _ ih => exact feed_step_ascii ih decoded member
  | case8 _ byte _ _ _ ih =>
      exact @feed_step [byte] _ _ _ _ ih
        (fun feed => List.mem_singleton.2 (roman_feed feed).symm) decoded member
  | case10 _ _ _ _ _ ih => exact feed_step_foreign [_] ih (katakana_feedless _) decoded member
  | case12 _ _ _ _ _ _ _ read ih =>
      exact feed_step_foreign [_, _] ih (cell_feedless jis0208_feedless read) decoded member
  | _ => cases decoded

theorem euc_kr_two_bytes {lead trail : UInt8} {char : Char}
    (read : EucKr.twoByte? lead trail = some char) : char ≠ '\n' := by
  unfold EucKr.twoByte? at read
  dsimp only at read
  split at read
  · exact cell_feedless euc_kr_feedless read
  · cases read

theorem euc_kr_feeds : FeedsFromBytes EucKr.decode? := by
  intro bytes text decoded member
  fun_induction EucKr.decode? bytes generalizing text with
  | case1 =>
      cases decoded
      exact nomatch member
  | case2 _ _ _ ih => exact feed_step_ascii ih decoded member
  | case5 _ _ _ _ _ _ read ih =>
      exact feed_step_foreign [_, _] ih (euc_kr_two_bytes read) decoded member
  | _ => cases decoded

namespace Utf16

theorem feed_of_unit {order : ByteOrder} {first second : UInt8}
    (feed : unit order first second = 10) : 10 ∈ [first, second] := by
  have bound := first.toNat_lt
  have boundToo := second.toNat_lt
  cases order with
  | little =>
      have same : first.toNat = (10 : UInt8).toNat := by
        change second.toNat * 256 + first.toNat = 10 at feed
        change first.toNat = 10
        omega
      rw [UInt8.toNat_inj.1 same]
      exact List.mem_cons_self
  | big =>
      have same : second.toNat = (10 : UInt8).toNat := by
        change first.toNat * 256 + second.toNat = 10 at feed
        change second.toNat = 10
        omega
      rw [UInt8.toNat_inj.1 same]
      exact List.mem_cons_of_mem _ List.mem_cons_self

theorem feed_of_units {order : ByteOrder} {bytes : Bytes} {units : List Nat}
    (read : units? order bytes = some units) (feed : 10 ∈ units) : 10 ∈ bytes := by
  fun_induction units? order bytes generalizing units with
  | case1 =>
      cases read
      exact nomatch feed
  | case2 first second rest ih =>
      obtain ⟨later, readRest, rfl⟩ := Option.map_eq_some_iff.1 read
      rcases List.mem_cons.1 feed with here | behind
      · exact List.mem_append_left rest (feed_of_unit here.symm)
      · exact List.mem_append_right [first, second] (ih readRest behind)
  | case3 => cases read

theorem feed_of_chars {units : List Nat} {text : List Char}
    (read : charsOfUnits? units = some text) (member : '\n' ∈ text) : 10 ∈ units := by
  fun_induction charsOfUnits? units generalizing text with
  | case1 =>
      cases read
      exact nomatch member
  | case2 _ _ low rest _ ih =>
      obtain ⟨later, readRest, rfl⟩ := Option.map_eq_some_iff.1 read
      rcases List.mem_cons.1 member with here | behind
      · have code := feed_code here.symm
        omega
      · exact List.mem_cons_of_mem _ (List.mem_cons_of_mem _ (ih readRest behind))
  | case6 _ _ _ _ ih =>
      obtain ⟨later, readRest, rfl⟩ := Option.map_eq_some_iff.1 read
      rcases List.mem_cons.1 member with here | behind
      · rw [feed_code here.symm]
        exact List.mem_cons_self
      · exact List.mem_cons_of_mem _ (ih readRest behind)
  | _ => cases read

end Utf16

theorem user_defined_feed {byte : UInt8} (feed : userDefinedChar byte = '\n') : byte = 10 := by
  unfold userDefinedChar at feed
  split at feed
  · exact feed_byte feed
  · have code := feed_code feed
    omega

theorem utf8_feeds : FeedsFromBytes Text.Utf8.decode? := by
  intro bytes text decoded member
  rw [Text.Utf8.decode_some_iff.1 decoded]
  exact List.mem_flatMap.2 ⟨'\n', member, List.mem_cons_self⟩

/-- A line feed in a decoded text comes from the byte of a line feed, whatever the encoding. -/
theorem decode_feeds (encoding : Encoding) : FeedsFromBytes encoding.decode? := by
  cases encoding with
  | utf8 => exact utf8_feeds
  | singleByte table => exact single_byte_feeds table
  | logicalHebrew => exact single_byte_feeds .iso8859x8
  | gbk => exact gb18030_feeds
  | gb18030 => exact gb18030_feeds
  | big5 => exact big5_feeds
  | eucJp => exact euc_jp_feeds
  | iso2022Jp => exact iso_2022_jp_feeds .ascii false
  | shiftJis => exact shift_jis_feeds
  | eucKr => exact euc_kr_feeds
  | replacement =>
      intro bytes text decoded member
      obtain ⟨-, same⟩ := Option.ite_none_right_eq_some.1 decoded
      cases same
      exact nomatch member
  | utf16be =>
      intro bytes text decoded member
      obtain ⟨units, read, chars⟩ := Option.bind_eq_some_iff.1 decoded
      exact Utf16.feed_of_units read (Utf16.feed_of_chars chars member)
  | utf16le =>
      intro bytes text decoded member
      obtain ⟨units, read, chars⟩ := Option.bind_eq_some_iff.1 decoded
      exact Utf16.feed_of_units read (Utf16.feed_of_chars chars member)
  | userDefined =>
      intro bytes text decoded member
      cases decoded
      obtain ⟨byte, present, feed⟩ := List.mem_map.1 member
      exact user_defined_feed feed ▸ present

end Checkup.Encoding
