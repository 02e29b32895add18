import Checkup.Proofs.Terminal.Carets
import Mathlib.Order.Interval.Set.Defs
import Mathlib.Order.Monotone.Defs

/-!
# Lines and anchors

A page and its content agree on where an anchor is: its row counts the newlines before it. The
table of starts ascends, so however it is searched, there is one place where it can be parted at
an anchor. Lines and anchors of any size are placed, those beyond the content included.
-/

namespace Checkup.Terminal

/-! ## The starts up to an anchor -/

/-- The starts up to an anchor are those behind the newlines before it. -/
theorem starts_behind_until (offset anchor : Nat) (content : Bytes) :
    ((startsBehind offset content).takeWhile (· ≤ anchor)).length =
      (content.take (anchor - offset)).count newline := by
  induction content generalizing offset with
  | nil => rw [List.take_nil]; rfl
  | cons byte rest ih =>
      have later := ih (offset + 1)
      by_cases reached : offset + 1 ≤ anchor
      · have step : anchor - offset = anchor - (offset + 1) + 1 := by omega
        rw [startsBehind, step, List.take_succ_cons, List.count_cons, ← later]
        by_cases ends : byte = newline
        · rw [if_pos ends, List.takeWhile_cons_of_pos (by simpa using reached), List.length_cons]
          simp [ends]
        · rw [if_neg ends]
          simp [ends]
      · have before : anchor - offset = 0 := by omega
        have beforeToo : anchor - (offset + 1) = 0 := by omega
        rw [beforeToo, List.take_zero, List.count_nil] at later
        rw [startsBehind, before, List.take_zero, List.count_nil]
        split
        · rw [List.takeWhile_cons_of_neg (by simpa using reached), List.length_nil]
        · exact later

/-- The first start is at every anchor, and a newline before the anchor adds one. -/
theorem starts_until (content : Bytes) (anchor : Nat) :
    ((lineStarts content).takeWhile (· ≤ anchor)).length =
      (content.take anchor).count newline + 1 := by
  have later := starts_behind_until 0 anchor content
  rw [Nat.sub_zero] at later
  rw [lineStarts, List.takeWhile_cons_of_pos (by simp), List.length_cons, later]

/-! ## The place where ascending numbers are parted -/

/-- A table is parted at an anchor: what stands before the place is up to it, the rest beyond. -/
structure PartedAt (starts : List Nat) (anchor place : Nat) : Prop where
  inside : place ≤ starts.length
  before : ∀ start ∈ starts.take place, start ≤ anchor
  behind : ∀ start ∈ starts.drop place, anchor < start

/-- A table can be parted in one place only, and a walk from the front finds it. -/
theorem PartedAt.unique {starts : List Nat} {anchor place : Nat}
    (parted : PartedAt starts anchor place) :
    place = (starts.takeWhile (· ≤ anchor)).length := by
  obtain ⟨inside, before, behind⟩ := parted
  have stopped : (starts.drop place).takeWhile (· ≤ anchor) = [] := by
    cases rest : starts.drop place with
    | nil => rfl
    | cons next others =>
        have beyond := behind next (rest ▸ List.mem_cons_self)
        exact List.takeWhile_cons_of_neg (by simpa using beyond)
  rw [← List.take_append_drop place starts,
    List.takeWhile_append_of_pos fun start member => by simpa using before start member, stopped,
    List.append_nil, List.length_take, Nat.min_eq_left inside]

/-- An ascending table can be parted at every anchor. -/
theorem parted_of_ascending {starts : List Nat} (ascending : starts.Pairwise (· < ·))
    (anchor : Nat) : PartedAt starts anchor (starts.takeWhile (· ≤ anchor)).length where
  inside := (List.takeWhile_prefix _).length_le
  before := by
    intro start member
    rw [← List.prefix_iff_eq_take.1 (List.takeWhile_prefix _)] at member
    simpa using List.mem_takeWhile_imp member
  behind := by
    induction starts with
    | nil => exact fun _ member => nomatch member
    | cons first rest ih =>
        obtain ⟨above, later⟩ := List.pairwise_cons.1 ascending
        by_cases reached : first ≤ anchor
        · rw [List.takeWhile_cons_of_pos (by simpa using reached), List.length_cons,
            List.drop_succ_cons]
          exact ih later
        · rw [List.takeWhile_cons_of_neg (by simpa using reached), List.length_nil, List.drop_zero]
          have beyond := Nat.lt_of_not_le reached
          intro start member
          rcases List.mem_cons.1 member with same | behind
          · omega
          · have ahead := above start behind
            omega

/-! ## A page over its content -/

/-- How a page places lines and anchors over a content. Anchors and lines are numbers of any size;
those that the content does not have are moved to its end. -/
structure Page.PlacedOver (page : Page) (content : Bytes) : Prop where
  /-- The row of an anchor is a row of the page, and starts at the anchor or before it. -/
  reached : ∀ anchor, ∃ start ≤ anchor, page.starts[(page.anchorToCaret anchor).1]? = some start
  /-- The one place where the starts can be parted at an anchor is behind the start of its row. -/
  parted : ∀ anchor place,
    PartedAt page.starts anchor place ↔ place = (page.anchorToCaret anchor).1 + 1
  /-- The row of an anchor counts the newlines before it. -/
  row : ∀ anchor, (page.anchorToCaret anchor).1 =
    (content.take (min anchor content.length)).count newline
  /-- From the start of its row the column leads to the anchor. -/
  column : ∀ anchor,
    page.lineToAnchor ((page.anchorToCaret anchor).1 + 1) + (page.anchorToCaret anchor).2 = anchor
  /-- The anchor of a line is on the row of the line, or on the nearest row. -/
  lineRow : ∀ line, (page.anchorToCaret (page.lineToAnchor line)).1 =
    min (max line 1) (lineCount content) - 1
  lineColumn : ∀ line ≤ lineCount content, (page.anchorToCaret (page.lineToAnchor line)).2 = 0
  monotone : Monotone page.lineToAnchor
  bounded : ∀ line, page.lineToAnchor line ≤ content.length
  increasing : StrictMonoOn page.lineToAnchor (Set.Icc 1 (lineCount content))

section OfContent

variable (label : String) (content : Bytes) (interactive color : Bool)

/-- A line that the content has is placed at the start of its row. -/
theorem start_of_line {line : Nat} (own : line ≤ lineCount content) :
    (lineStarts content)[line - 1]? =
      some ((Page.ofBytes label content interactive color).lineToAnchor line) := by
  have rows := line_starts_length content
  have positive : 0 < lineCount content := Nat.succ_pos _
  have inside : line - 1 < (lineStarts content).length := by omega
  change (lineStarts content)[line - 1]? =
    some (((lineStarts content)[line - 1]?).getD content.length)
  rw [List.getElem?_eq_getElem inside]
  rfl

theorem line_anchors_increasing :
    StrictMonoOn (Page.ofBytes label content interactive color).lineToAnchor
      (Set.Icc 1 (lineCount content)) := by
  intro line own other ownToo before
  have start := start_of_line label content interactive color own.2
  have startToo := start_of_line label content interactive color ownToo.2
  obtain ⟨inside, begins⟩ := List.getElem?_eq_some_iff.1 start
  obtain ⟨insideToo, beginsToo⟩ := List.getElem?_eq_some_iff.1 startToo
  have first : 1 ≤ line := own.1
  rw [← begins, ← beginsToo]
  exact List.pairwise_iff_getElem.1 (line_starts_ascending content) _ _ inside insideToo (by omega)

theorem line_anchors_monotone :
    Monotone (Page.ofBytes label content interactive color).lineToAnchor := by
  intro line other before
  have rows := line_starts_length content
  cases begins : (lineStarts content)[other - 1]? with
  | none =>
      have last : (Page.ofBytes label content interactive color).lineToAnchor other =
          content.length := by
        change ((lineStarts content)[other - 1]?).getD content.length = content.length
        rw [begins, Option.getD_none]
      rw [last]
      exact anchor_within label content interactive color line
  | some start =>
      obtain ⟨inside, -⟩ := List.getElem?_eq_some_iff.1 begins
      rcases Nat.eq_or_lt_of_le before with same | earlier
      · rw [same]
      by_cases first : line = 0
      · -- Line zero is placed where line one is.
        subst first
        have zero : (Page.ofBytes label content interactive color).lineToAnchor 0 = 0 := rfl
        rw [zero]
        exact Nat.zero_le _
      · have own : 1 ≤ line ∧ line ≤ lineCount content := by omega
        have ownToo : 1 ≤ other ∧ other ≤ lineCount content := by omega
        exact Nat.le_of_lt (line_anchors_increasing label content interactive color own ownToo
          earlier)

/-- The lines of a page and the anchors over its content lead to each other. -/
theorem lines_and_anchors_placed :
    (Page.ofBytes label content interactive color).PlacedOver content := by
  let page := Page.ofBytes label content interactive color
  have ascending : page.starts.Pairwise (· < ·) := line_starts_ascending content
  have until_anchor (anchor : Nat) : (page.starts.takeWhile (· ≤ anchor)).length =
      (content.take anchor).count newline + 1 := starts_until content anchor
  have row (anchor : Nat) :
      (page.anchorToCaret anchor).1 = (content.take anchor).count newline := by
    change (page.starts.takeWhile (· ≤ anchor)).length - 1 = _
    rw [until_anchor, Nat.add_sub_cancel]
  have reached (anchor : Nat) := @Page.caret_reached page _ rfl anchor
  constructor
  case reached =>
    intro anchor
    obtain ⟨start, begins, column⟩ := reached anchor
    exact ⟨start, by omega, begins⟩
  case parted =>
    intro anchor place
    have found := parted_of_ascending ascending anchor
    rw [until_anchor, ← row] at found
    constructor
    · intro parted
      rw [parted.unique, until_anchor, row]
    · intro same
      rw [same]
      exact found
  case row =>
    intro anchor
    rw [← List.take_eq_take_min]
    exact row anchor
  case column =>
    intro anchor
    obtain ⟨start, begins, column⟩ := reached anchor
    have placed : page.lineToAnchor ((page.anchorToCaret anchor).1 + 1) = start := by
      rw [Page.lineToAnchor, Nat.add_sub_cancel, begins, Option.getD_some]
    rw [placed]
    exact column
  case lineRow => exact row_of_line label content interactive color
  case lineColumn =>
    intro line own
    have begins := start_of_line label content interactive color own
    rw [Page.caret_of_start ascending begins]
  case monotone => exact line_anchors_monotone label content interactive color
  case bounded => exact anchor_within label content interactive color
  case increasing => exact line_anchors_increasing label content interactive color

end OfContent

end Checkup.Terminal
