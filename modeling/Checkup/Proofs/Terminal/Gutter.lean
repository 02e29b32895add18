import Checkup.Proofs.Terminal.Anchors
import Checkup.Proofs.Terminal.LineFeeds
import Checkup.Proofs.Terminal.RowTexts
import Mathlib.Data.List.Perm.Basic

/-!
# The gutter

The marks of all owners come together in one table of rows. One more anchor either brings a row into
the table or raises its dot to a cross, so the table is told by the rows of the anchors and their
markers, in whatever order these arrive. The gutter has one line for each row of the table, with
the row's own text.
-/

namespace Checkup.Terminal

open Std (TreeMap)

/-! ## The table of rows -/

/-- What is known of a row when rows have arrived with their markers: a cross wins. -/
def winner? (arrived : List (Nat × Marker)) (row : Nat) : Option Marker :=
  if (row, .cross) ∈ arrived then some .cross
  else if (row, .dot) ∈ arrived then some .dot
  else none

/-- A table shows what has arrived. -/
def Tells (rows : Rows) (arrived : List (Nat × Marker)) : Prop :=
  ∀ row : Nat, rows[row]? = winner? arrived row

theorem tells_nothing : Tells ∅ [] := fun _ => TreeMap.getElem?_emptyc

theorem mark_other {row other : Nat} (apart : row ≠ other) (rows : Rows) (marker : Marker) :
    (rows.mark row marker)[other]? = rows[other]? := by
  have different : ¬ compare row other = .eq := fun same => apart (Nat.compare_eq_eq.1 same)
  unfold Rows.mark
  split
  · rw [TreeMap.getElem?_insert, if_neg different]
  · rw [TreeMap.getElem?_insert, if_neg different]
  · rfl

theorem mark_own (rows : Rows) (row : Nat) (marker : Marker) :
    (rows.mark row marker)[row]? =
      if marker = .cross ∨ rows[row]? = some .cross then some .cross else some .dot := by
  have same : compare row row = .eq := Nat.compare_eq_eq.2 rfl
  unfold Rows.mark
  cases held : rows[row]? with
  | none =>
      dsimp only
      rw [TreeMap.getElem?_insert, if_pos same]
      cases marker <;> simp
  | some own =>
      cases marker with
      | cross =>
          dsimp only
          rw [TreeMap.getElem?_insert, if_pos same]
          simp
      | dot =>
          dsimp only
          rw [held]
          cases own <;> simp

/-- One more row with its marker. -/
theorem tells_mark {rows : Rows} {arrived : List (Nat × Marker)} (tells : Tells rows arrived)
    (row : Nat) (marker : Marker) :
    Tells (rows.mark row marker) (arrived ++ [(row, marker)]) := by
  intro other
  by_cases same : row = other
  · subst same
    rw [mark_own, tells row]
    unfold winner?
    simp only [List.mem_append, List.mem_singleton, Prod.mk.injEq, true_and]
    cases marker <;> by_cases crossed : (row, Marker.cross) ∈ arrived <;> simp [crossed]
  · rw [mark_other same, tells other]
    unfold winner?
    simp only [List.mem_append, List.mem_singleton, Prod.mk.injEq, Ne.symm same, false_and,
      or_false]

theorem tells_mark_all {rows : Rows} {arrived : List (Nat × Marker)} (tells : Tells rows arrived)
    (more : List (Nat × Marker)) :
    Tells (more.foldl (fun rows arrival => rows.mark arrival.1 arrival.2) rows)
      (arrived ++ more) := by
  induction more generalizing rows arrived with
  | nil =>
      rw [List.append_nil]
      exact tells
  | cons arrival rest ih =>
      rw [List.foldl_cons, List.append_cons]
      exact ih (tells_mark tells arrival.1 arrival.2)

namespace Page

variable (page : Page) (marks : Marks)

/-- The rows of all anchors, each with the marker of its owner. -/
def arrivals : List (Nat × Marker) :=
  marks.flatMap fun (_, anchors, marker) =>
    anchors.map fun anchor => ((page.anchorToCaret anchor).1, marker)

/-- An owner with the marker has an anchor on the row. -/
def Holds (row : Nat) (marker : Marker) : Prop :=
  ∃ owner anchors, (owner, anchors, marker) ∈ marks ∧
    ∃ anchor ∈ anchors, (page.anchorToCaret anchor).1 = row

theorem mem_arrivals_iff (row : Nat) (marker : Marker) :
    (row, marker) ∈ page.arrivals marks ↔ page.Holds marks row marker := by
  unfold arrivals Holds
  rw [List.mem_flatMap]
  constructor
  · rintro ⟨⟨owner, anchors, own⟩, member, arrived⟩
    obtain ⟨anchor, inside, same⟩ := List.mem_map.1 arrived
    cases same
    exact ⟨owner, anchors, member, anchor, inside, rfl⟩
  · rintro ⟨owner, anchors, member, anchor, inside, rfl⟩
    exact ⟨_, member, List.mem_map.2 ⟨anchor, inside, rfl⟩⟩

/-- The table of a page is filled row by row. -/
theorem marked_rows_tell : Tells (page.markedRows marks) (page.arrivals marks) := by
  have filled : page.markedRows marks =
      (page.arrivals marks).foldl (fun rows arrival => rows.mark arrival.1 arrival.2) ∅ := by
    rw [arrivals, List.foldl_flatMap]
    simp only [List.foldl_map]
    rfl
  rw [filled]
  exact tells_mark_all tells_nothing _

/-- A row is in the table with a cross if an owner with a cross has an anchor on it, otherwise with
a dot if any owner has. -/
theorem mem_marked_rows_iff (row : Nat) (marker : Marker) :
    (row, marker) ∈ (page.markedRows marks).toList ↔
      (∃ other, page.Holds marks row other) ∧
        (marker = .cross ↔ page.Holds marks row .cross) := by
  have anyone : (∃ other, page.Holds marks row other) ↔
      page.Holds marks row .cross ∨ page.Holds marks row .dot := by
    constructor
    · rintro ⟨other, held⟩
      cases other with
      | cross => exact .inl held
      | dot => exact .inr held
    · rintro (held | held)
      · exact ⟨_, held⟩
      · exact ⟨_, held⟩
  rw [TreeMap.mem_toList_iff_getElem?_eq_some, page.marked_rows_tell marks row, winner?, anyone,
    ← mem_arrivals_iff, ← mem_arrivals_iff]
  by_cases crossed : (row, Marker.cross) ∈ page.arrivals marks
  · cases marker <;> simp [crossed]
  · by_cases dotted : (row, Marker.dot) ∈ page.arrivals marks
    · cases marker <;> simp [crossed, dotted]
    · simp [crossed, dotted]

theorem marked_rows_ascending : ((page.markedRows marks).toList.map (·.1)).Pairwise (· < ·) := by
  rw [List.pairwise_map]
  simpa only [Nat.compare_eq_lt] using
    (TreeMap.ordered_keys_toList (t := page.markedRows marks))

/-- Tables of marks on the same rows are the same. -/
theorem marked_rows_congr {others : Marks}
    (same : ∀ row marker, page.Holds marks row marker ↔ page.Holds others row marker) :
    (page.markedRows marks).toList = (page.markedRows others).toList := by
  have ordered (held : Marks) :
      (page.markedRows held).toList.Pairwise fun one other => one.1 < other.1 :=
    List.pairwise_map.1 (page.marked_rows_ascending held)
  have distinct (held : Marks) : (page.markedRows held).toList.Nodup :=
    (ordered held).imp fun before equal => by rw [equal] at before; exact Nat.lt_irrefl _ before
  have members : ∀ entry, entry ∈ (page.markedRows marks).toList ↔
      entry ∈ (page.markedRows others).toList := by
    rintro ⟨row, marker⟩
    rw [mem_marked_rows_iff, mem_marked_rows_iff, same row .cross]
    simp only [same row]
  have permuted := (List.perm_ext_iff_of_nodup (distinct marks) (distinct others)).2 members
  refine List.Perm.eq_of_pairwise ?_ (ordered marks) (ordered others) permuted
  intro one other _ _ before after
  exact absurd before (Nat.lt_asymm after)

/-! ## Marks that show the same -/

/-- Marks turned into others by changes that move no marker to another row: owners are renamed, the
anchors of an owner come in another order or once more, and an anchor moves within its row. -/
inductive Redrawn : Marks → Marks → Prop
  /-- The marks are kept in order of names, so new names may bring them into another order. -/
  | renamed {marks others : Marks} :
      (marks.map (·.2)).Perm (others.map (·.2)) → Redrawn marks others
  | reordered {front rest : Marks} {owner : String} {anchors others : List Nat} {marker : Marker} :
      anchors.Perm others →
      Redrawn (front ++ (owner, anchors, marker) :: rest)
        (front ++ (owner, others, marker) :: rest)
  | repeated {front rest : Marks} {owner : String} {anchors : List Nat} {marker : Marker}
      {anchor : Nat} : anchor ∈ anchors →
      Redrawn (front ++ (owner, anchors, marker) :: rest)
        (front ++ (owner, anchor :: anchors, marker) :: rest)
  | moved {front rest : Marks} {owner : String} {before behind : List Nat} {marker : Marker}
      {anchor other : Nat} : (page.anchorToCaret anchor).1 = (page.anchorToCaret other).1 →
      Redrawn (front ++ (owner, before ++ anchor :: behind, marker) :: rest)
        (front ++ (owner, before ++ other :: behind, marker) :: rest)
  | reverted {marks others : Marks} : Redrawn marks others → Redrawn others marks
  | continued {marks between others : Marks} :
      Redrawn marks between → Redrawn between others → Redrawn marks others

variable {page marks}

theorem holds_iff_of_anchors {front rest : Marks} {owner : String} {anchors others : List Nat}
    {own : Marker}
    (same : ∀ row, (∃ anchor ∈ anchors, (page.anchorToCaret anchor).1 = row) ↔
      ∃ anchor ∈ others, (page.anchorToCaret anchor).1 = row) (row : Nat) (marker : Marker) :
    page.Holds (front ++ (owner, anchors, own) :: rest) row marker ↔
      page.Holds (front ++ (owner, others, own) :: rest) row marker := by
  have parts (held : List Nat) : page.Holds (front ++ (owner, held, own) :: rest) row marker ↔
      page.Holds front row marker ∨ page.Holds rest row marker ∨
        marker = own ∧ ∃ anchor ∈ held, (page.anchorToCaret anchor).1 = row := by
    unfold Holds
    constructor
    · rintro ⟨name, its, member, onRow⟩
      rcases List.mem_append.1 member with early | late
      · exact .inl ⟨name, its, early, onRow⟩
      · rcases List.mem_cons.1 late with here | later
        · cases here
          exact .inr (.inr ⟨rfl, onRow⟩)
        · exact .inr (.inl ⟨name, its, later, onRow⟩)
    · rintro (⟨name, its, early, onRow⟩ | ⟨name, its, later, onRow⟩ | ⟨rfl, onRow⟩)
      · exact ⟨name, its, List.mem_append_left _ early, onRow⟩
      · exact ⟨name, its, List.mem_append_right _ (List.mem_cons_of_mem _ later), onRow⟩
      · exact ⟨owner, held, List.mem_append_right _ List.mem_cons_self, onRow⟩
  rw [parts, parts, same]

/-- Redrawn marks hold the same rows with the same markers. -/
theorem holds_of_redrawn {others : Marks} (redrawn : page.Redrawn marks others) (row : Nat)
    (marker : Marker) : page.Holds marks row marker ↔ page.Holds others row marker := by
  induction redrawn with
  | renamed permuted =>
      have unnamed (held : Marks) : page.Holds held row marker ↔
          ∃ anchors, (anchors, marker) ∈ held.map (·.2) ∧
            ∃ anchor ∈ anchors, (page.anchorToCaret anchor).1 = row := by
        unfold Holds
        constructor
        · rintro ⟨owner, anchors, member, onRow⟩
          exact ⟨anchors, List.mem_map.2 ⟨_, member, rfl⟩, onRow⟩
        · rintro ⟨anchors, member, onRow⟩
          obtain ⟨⟨owner, _, _⟩, inside, same⟩ := List.mem_map.1 member
          cases same
          exact ⟨owner, anchors, inside, onRow⟩
      rw [unnamed, unnamed]
      simp only [permuted.mem_iff]
  | reordered permuted =>
      apply holds_iff_of_anchors
      intro row
      simp only [permuted.mem_iff]
  | repeated member =>
      apply holds_iff_of_anchors
      intro row
      constructor
      · rintro ⟨anchor, inside, onRow⟩
        exact ⟨anchor, List.mem_cons_of_mem _ inside, onRow⟩
      · rintro ⟨anchor, inside, onRow⟩
        rcases List.mem_cons.1 inside with rfl | inside
        · exact ⟨_, member, onRow⟩
        · exact ⟨anchor, inside, onRow⟩
  | moved within =>
      apply holds_iff_of_anchors
      intro row
      simp only [List.mem_append, List.mem_cons, or_and_right, exists_or, exists_eq_left, within]
  | reverted _ ih => exact ih.symm
  | continued _ _ first second => exact first.trans second

/-! ## Lines of the gutter -/

/-- The line of a row: the glyph of its marker, its number counted from one, and a text. -/
def lineOf (color : Bool) (row : Nat) (marker : Marker) (text : String) : String :=
  glyph color marker ++ " " ++ padLeft 5 (toString (row + 1)) ++ " │ " ++ text ++ "\n"

theorem line_feeds_line_of (color : Bool) (row : Nat) (marker : Marker) (text : String) :
    lineFeeds (lineOf color row marker text) = lineFeeds text + 1 := by
  have blank : lineFeeds " " = 0 := by decide
  have bar : lineFeeds " │ " = 0 := by decide
  have ended : lineFeeds "\n" = 1 := by decide
  unfold lineOf
  simp only [line_feeds_append, line_feeds_glyph, line_feeds_pad_left, line_feeds_number, blank,
    bar, ended, Nat.zero_add]

/-- What the gutter shows of a row: one line, with the sign of a cross if any owner with a cross has
an anchor on the row and of a dot otherwise, the number of the row at the end of five columns, and
the text of the row. -/
structure GutterLine (page : Page) (marks : Marks) (row : Nat) (line : String) : Prop where
  shown : ∃ marker sign blanks, (marker = .cross ↔ page.Holds marks row .cross) ∧
    Sign page.color marker sign ∧
    blanks.toList = List.replicate (5 - (toString (row + 1)).length) ' ' ∧
    line = sign ++ " " ++ (blanks ++ toString (row + 1)) ++ " │ " ++ page.rowText row ++ "\n"
  single : lineFeeds line = 1

theorem line_of_signed (color : Bool) (row : Nat) (marker : Marker) (text : String) :
    ∃ sign blanks, Sign color marker sign ∧
      blanks.toList = List.replicate (5 - (toString (row + 1)).length) ' ' ∧
      lineOf color row marker text =
        sign ++ " " ++ (blanks ++ toString (row + 1)) ++ " │ " ++ text ++ "\n" := by
  obtain ⟨blanks, spelled, padded⟩ := pad_left_blanks 5 (toString (row + 1))
  exact ⟨glyph color marker, blanks, sign_glyph color marker, spelled, by rw [lineOf, padded]⟩

end Page

section OfContent

variable (label : String) (content : Bytes) (interactive color : Bool)

/-- A row that holds an anchor is a row of the content, with bytes of its own. -/
theorem row_of_holder {marks : Marks} {row : Nat} {marker : Marker}
    (held : (Page.ofBytes label content interactive color).Holds marks row marker) :
    (Page.ofBytes label content interactive color).rowText row =
      (rowBytes content
        ((Page.ofBytes label content interactive color).lineToAnchor (row + 1))).toLossyString := by
  obtain ⟨_, _, _, anchor, _, rfl⟩ := held
  obtain ⟨start, _, begins⟩ :=
    (lines_and_anchors_placed label content interactive color).reached anchor
  rw [Page.lineToAnchor, Nat.add_sub_cancel, begins, Option.getD_some]
  apply Page.row_text_decoded
  have starts : (lineStarts content)[_]? = some start := begins
  rw [← row_bytes_of_starts, List.getElem?_map, starts]
  rfl

theorem line_feeds_row_bytes (start : Nat) :
    lineFeeds (rowBytes content start).toLossyString = 0 := by
  apply line_feeds_zero_iff.2
  rw [Bytes.toLossyString, String.toList_ofList]
  exact mt newline_of_decoded (newline_not_in_row content start)

/-- The gutter shows a marked row with the text of its own bytes. Row by row, the lines of the
decoded content are the pieces of the content, each decoded by itself. -/
theorem gutter_shows_own_bytes (marks : Marks) :
    let page := Page.ofBytes label content interactive color
    let ownText := fun start => (rowBytes content start).toLossyString
    page.gutter marks = String.join ((page.markedRows marks).toList.map fun (row, marker) =>
      Page.lineOf color row marker (ownText (page.lineToAnchor (row + 1)))) ∧
    (List.range page.starts.length).map page.rowText = page.starts.map ownText ∧
    page.starts.map (rowBytes content) = byteRows content ∧
    page.lines = (keptRows (byteRows content)).map Bytes.toLossyString := by
  intro page ownText
  have rows : page.starts.map (rowBytes content) = byteRows content := row_bytes_of_starts content
  refine ⟨?shown, ?texts, rows, ?lines⟩
  case shown =>
    unfold Page.gutter
    congr 1
    apply List.map_congr_left
    rintro ⟨row, marker⟩ member
    obtain ⟨⟨other, held⟩, -⟩ := (page.mem_marked_rows_iff marks row marker).1 member
    change Page.lineOf color row marker (page.rowText row) = _
    rw [row_of_holder label content interactive color held]
  case texts =>
    have pieces : page.starts.map ownText = (byteRows content).map Bytes.toLossyString := by
      rw [← rows, List.map_map]
      rfl
    have many : page.starts.length = (byteRows content).length := by rw [← rows, List.length_map]
    rw [pieces, many]
    apply List.ext_getElem
    · simp only [List.length_map, List.length_range]
    · intro row inside _
      rw [List.length_map, List.length_range] at inside
      rw [List.getElem_map, List.getElem_map, List.getElem_range]
      exact Page.row_text_decoded label content interactive color (List.getElem?_eq_getElem inside)
  case lines =>
    change (textLines (Text.Utf8.decodeLossy content)).map String.ofList = _
    rw [lines_of_rows, List.map_map]
    rfl

/-- The gutter has one line for each row that holds an anchor, from the first row on. Changes that
move no marker to another row do not change it. -/
theorem gutter_row_by_row (marks : Marks) :
    let page := Page.ofBytes label content interactive color
    (∃ rows lines, rows.Pairwise (· < ·) ∧
      (∀ row, row ∈ rows ↔ ∃ marker, page.Holds marks row marker) ∧
      List.Forall₂ (page.GutterLine marks) rows lines ∧ page.gutter marks = String.join lines) ∧
    ∀ others, page.Redrawn marks others → page.gutter others = page.gutter marks := by
  intro page
  let table := (page.markedRows marks).toList
  constructor
  · refine ⟨table.map (·.1), table.map fun (row, marker) => page.gutterLine row marker,
      page.marked_rows_ascending marks, ?_, ?_, rfl⟩
    · intro row
      rw [List.mem_map]
      constructor
      · rintro ⟨⟨_, marker⟩, member, rfl⟩
        exact ((page.mem_marked_rows_iff marks _ marker).1 member).1
      · intro holder
        by_cases crossed : page.Holds marks row .cross
        · exact ⟨(row, .cross), (page.mem_marked_rows_iff marks row .cross).2
            ⟨holder, by simp only [crossed]⟩, rfl⟩
        · exact ⟨(row, .dot), (page.mem_marked_rows_iff marks row .dot).2
            ⟨holder, by simp only [crossed, reduceCtorEq]⟩, rfl⟩
    · rw [List.forall₂_map_left_iff, List.forall₂_map_right_iff, List.forall₂_same]
      rintro ⟨row, marker⟩ member
      obtain ⟨⟨_, held⟩, wins⟩ := (page.mem_marked_rows_iff marks row marker).1 member
      obtain ⟨sign, blanks, signed, spelled, line⟩ :=
        Page.line_of_signed color row marker (page.rowText row)
      refine ⟨⟨marker, sign, blanks, wins, signed, spelled, line⟩, ?_⟩
      change lineFeeds (Page.lineOf color row marker (page.rowText row)) = 1
      rw [Page.line_feeds_line_of, row_of_holder label content interactive color held,
        line_feeds_row_bytes]
  · intro others redrawn
    unfold Page.gutter
    rw [page.marked_rows_congr others fun row marker =>
      (Page.holds_of_redrawn redrawn row marker).symm]

end OfContent

example :
    (Page.ofBytes "a.php" (Bytes.ofString "<?php\n\nfoo();\n") false false).gutter
        [("Linter", [0], .cross), ("Sniffer", [7, 7, 2], .dot)] =
      "✖     1 │ <?php\n●     3 │ foo();\n" := by
  decide +kernel

end Checkup.Terminal
