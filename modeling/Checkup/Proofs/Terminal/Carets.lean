import Checkup.Terminal.Screen
import Mathlib.Data.List.TakeWhile

/-!
# Carets on a page

A page has one row more than line feeds, and the starts of its rows ascend. So the anchor of a line
leads back to the row of that line; a line that the page does not have is moved to the nearest one
that it has.
-/

namespace Checkup.Terminal

/-! ## Starts -/

theorem starts_behind_length (offset : Nat) (content : Bytes) :
    (startsBehind offset content).length = content.count newline := by
  induction content generalizing offset with
  | nil => rfl
  | cons byte rest ih =>
      rw [startsBehind, List.count_cons]
      by_cases ends : byte = newline
      · rw [if_pos ends, List.length_cons, ih]
        simp [ends]
      · rw [if_neg ends, ih]
        simp [ends]

theorem starts_behind_bounds {offset : Nat} {content : Bytes} {start : Nat}
    (member : start ∈ startsBehind offset content) :
    offset < start ∧ start ≤ offset + content.length := by
  induction content generalizing offset with
  | nil => cases member
  | cons byte rest ih =>
      rw [List.length_cons]
      rw [startsBehind] at member
      split at member
      · rcases List.mem_cons.1 member with same | later
        · omega
        · have bounds := ih later
          omega
      · have bounds := ih member
        omega

theorem starts_behind_ascending (offset : Nat) (content : Bytes) :
    (startsBehind offset content).Pairwise (· < ·) := by
  induction content generalizing offset with
  | nil => exact List.Pairwise.nil
  | cons byte rest ih =>
      rw [startsBehind]
      split
      · exact List.pairwise_cons.2 ⟨fun later member => (starts_behind_bounds member).1, ih _⟩
      · exact ih _

/-- How many lines a content has. -/
def lineCount (content : Bytes) : Nat := content.count newline + 1

theorem line_starts_length (content : Bytes) :
    (lineStarts content).length = lineCount content :=
  congrArg (· + 1) (starts_behind_length 0 content)

theorem line_count_bound (content : Bytes) : lineCount content ≤ content.length + 1 :=
  Nat.succ_le_succ List.count_le_length

theorem line_starts_ascending (content : Bytes) : (lineStarts content).Pairwise (· < ·) :=
  List.pairwise_cons.2
    ⟨fun _ member => (starts_behind_bounds member).1, starts_behind_ascending 0 content⟩

theorem line_start_within {content : Bytes} {start : Nat} (member : start ∈ lineStarts content) :
    start ≤ content.length := by
  rcases List.mem_cons.1 member with first | later
  · omega
  · have bounds := starts_behind_bounds later
    omega

/-- Up to one of several ascending numbers there are those before it and itself. -/
theorem take_while_ascending {numbers : List Nat} (ascending : numbers.Pairwise (· < ·))
    {index : Nat} {number : Nat} (present : numbers[index]? = some number) :
    (numbers.takeWhile (· ≤ number)).length = index + 1 := by
  induction numbers generalizing index with
  | nil => cases present
  | cons first rest ih =>
      obtain ⟨above, later⟩ := List.pairwise_cons.1 ascending
      cases index with
      | zero =>
          have same : first = number := Option.some.inj present
          subst same
          have stopped : rest.takeWhile (· ≤ first) = [] := by
            cases rest with
            | nil => rfl
            | cons next others =>
                have beyond := above next List.mem_cons_self
                exact List.takeWhile_cons_of_neg (by simpa using beyond)
          rw [List.takeWhile_cons_of_pos (by simp), List.length_cons, stopped]
          rfl
      | succ index =>
          have below := above number (List.mem_of_getElem? present)
          rw [List.takeWhile_cons_of_pos (by simpa using Nat.le_of_lt below), List.length_cons,
            ih later present]

/-! ## Rows -/

/-- The line that a caret is moved to for a line that may be none of the content. -/
def shownLine (content : Bytes) (line : Nat) : Nat := min (max line 1) (lineCount content)

theorem shown_line_of_own {content : Bytes} {line : Nat} (first : line ≠ 0)
    (last : line ≤ lineCount content) : shownLine content line = line := by
  unfold shownLine
  omega

namespace Page

/-- The caret at an anchor can be told in words: the row has a start, the column reaches from there
to the anchor, and both can be counted from one. -/
structure CaretExact (page : Page) (anchor : Nat) : Prop where
  reached : ∃ start, page.starts[(page.anchorToCaret anchor).1]? = some start ∧
    start + (page.anchorToCaret anchor).2 = anchor
  nextRow : nextWord (page.anchorToCaret anchor).1 = (page.anchorToCaret anchor).1 + 1
  nextColumn : nextWord (page.anchorToCaret anchor).2 = (page.anchorToCaret anchor).2 + 1

variable {page : Page}

theorem caret_of_start (ascending : page.starts.Pairwise (· < ·)) {row start : Nat}
    (begins : page.starts[row]? = some start) : page.anchorToCaret start = (row, 0) := by
  rw [anchorToCaret, take_while_ascending ascending begins, Nat.add_sub_cancel, begins,
    Option.getD_some, Nat.sub_self]

/-- Behind all starts the caret is on the last row. -/
theorem row_behind_starts {anchor : Nat} (behind : ∀ start ∈ page.starts, start ≤ anchor) :
    (page.anchorToCaret anchor).1 = page.starts.length - 1 := by
  have all : page.starts.takeWhile (· ≤ anchor) = page.starts :=
    List.takeWhile_eq_self_iff.2 fun start member => by simpa using behind start member
  rw [anchorToCaret, all]

/-- The first row starts at or before every anchor, so the row of an anchor is one of the page. -/
theorem caret_reached {others : List Nat} (starts : page.starts = 0 :: others) (anchor : Nat) :
    ∃ start, page.starts[(page.anchorToCaret anchor).1]? = some start ∧
      start + (page.anchorToCaret anchor).2 = anchor := by
  have some_row : (page.starts.takeWhile (· ≤ anchor)).length ≠ 0 := by
    rw [starts, List.takeWhile_cons_of_pos (by simp)]
    exact Nat.succ_ne_zero _
  have inside : (page.starts.takeWhile (· ≤ anchor)).length - 1 <
      (page.starts.takeWhile (· ≤ anchor)).length := by omega
  obtain ⟨start, present⟩ : ∃ start, (page.starts.takeWhile (· ≤ anchor))[
      (page.starts.takeWhile (· ≤ anchor)).length - 1]? = some start :=
    ⟨_, List.getElem?_eq_getElem inside⟩
  have before : start ≤ anchor := by
    simpa using List.mem_takeWhile_imp (List.mem_of_getElem? present)
  have begins : page.starts[(page.starts.takeWhile (· ≤ anchor)).length - 1]? = some start := by
    rw [← present]
    exact (List.prefix_iff_getElem?.1 (List.takeWhile_prefix (· ≤ anchor)) _ inside).trans
      (List.getElem?_eq_getElem inside).symm
  refine ⟨start, begins, ?_⟩
  rw [anchorToCaret]
  dsimp only
  rw [begins, Option.getD_some]
  omega

end Page

section OfContent

variable (label : String) (content : Bytes) (interactive color : Bool) (line : Nat)

theorem anchor_within : (Page.ofBytes label content interactive color).lineToAnchor line ≤
    content.length := by
  change ((lineStarts content)[line - 1]?).getD content.length ≤ content.length
  cases begins : (lineStarts content)[line - 1]? with
  | none => exact Nat.le_refl _
  | some start => exact line_start_within (List.mem_of_getElem? begins)

/-- The anchor of a line is on the row of the line, or on the nearest row. -/
theorem row_of_line :
    let page := Page.ofBytes label content interactive color
    (page.anchorToCaret (page.lineToAnchor line)).1 = shownLine content line - 1 := by
  intro page
  have rows : page.starts.length = lineCount content := line_starts_length content
  have anchor : page.lineToAnchor line = (page.starts[line - 1]?).getD content.length := rfl
  rw [anchor, shownLine]
  cases begins : page.starts[line - 1]? with
  | some start =>
      have inside := (List.getElem?_eq_some_iff.1 begins).1
      rw [Option.getD_some, Page.caret_of_start (line_starts_ascending content) begins]
      dsimp only
      omega
  | none =>
      have outside := List.getElem?_eq_none_iff.1 begins
      rw [Option.getD_none, Page.row_behind_starts fun start member => line_start_within member,
        rows]
      omega

/-- Nothing overflows at an anchor of a content that fits into memory. -/
theorem caret_exact (fits : content.length + 1 < wordLimit) {anchor : Nat}
    (within : anchor ≤ content.length) :
    (Page.ofBytes label content interactive color).CaretExact anchor := by
  obtain ⟨start, begins, column⟩ :=
    @Page.caret_reached (Page.ofBytes label content interactive color) _ rfl anchor
  have inside := (List.getElem?_eq_some_iff.1 begins).1
  have rows : (Page.ofBytes label content interactive color).starts.length = lineCount content :=
    line_starts_length content
  have lines := line_count_bound content
  exact {
    reached := ⟨start, begins, column⟩
    nextRow := Nat.mod_eq_of_lt (by omega)
    nextColumn := Nat.mod_eq_of_lt (by omega) }

end OfContent

end Checkup.Terminal
