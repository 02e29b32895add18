import Checkup.Proofs.Terminal.Signs
import Checkup.Proofs.ToolOutput.Reading

/-!
# Line feeds of a text

How many lines a printed text ends. Texts that are put together end the lines of their parts; marks,
numbers and colours end none.
-/

namespace Checkup

/-- How many line feeds a text has. -/
def lineFeeds (text : String) : Nat := text.toList.count '\n'

@[simp] theorem line_feeds_append (front rest : String) :
    lineFeeds (front ++ rest) = lineFeeds front + lineFeeds rest := by
  rw [lineFeeds, String.toList_append, List.count_append]
  rfl

/-- A text that is spelled out ends no line if none of its characters does. -/
theorem line_feeds_of_chars {chars : List Char} (clean : '\n' ∉ chars) :
    lineFeeds (String.ofList chars) = 0 := by
  rw [lineFeeds, String.toList_ofList]
  exact List.count_eq_zero.2 clean

theorem line_feeds_join (texts : List String) :
    lineFeeds (String.join texts) = (texts.map lineFeeds).sum := by
  induction texts with
  | nil => rfl
  | cons text rest ih => rw [String.join_cons, line_feeds_append, ih, List.map_cons, List.sum_cons]

theorem line_feeds_zero_iff {text : String} : lineFeeds text = 0 ↔ '\n' ∉ text.toList :=
  List.count_eq_zero

@[simp] theorem line_feeds_number (number : Nat) : lineFeeds (toString number) = 0 := by
  apply line_feeds_zero_iff.2
  intro member
  exact absurd (ToolOutput.decimal_digits number _ member) (by decide)

namespace Terminal

theorem line_feeds_pad_left (width : Nat) (text : String) :
    lineFeeds (padLeft width text) = lineFeeds text := by
  obtain ⟨blanks, spelled, padded⟩ := pad_left_blanks width text
  have clean : lineFeeds blanks = 0 := by
    rw [lineFeeds, spelled]
    exact List.count_eq_zero.2 fun member => absurd (List.eq_of_mem_replicate member) (by decide)
  rw [padded, line_feeds_append, clean, Nat.zero_add]

theorem line_feeds_bold (color : Bool) (text : String) :
    lineFeeds (styled color bold text) = lineFeeds text := by
  cases color with
  | false => rfl
  | true =>
      have before : lineFeeds "\x1b[1m" = 0 := by decide
      have after : lineFeeds "\x1b[0m" = 0 := by decide
      change lineFeeds ("\x1b[1m" ++ text ++ "\x1b[0m") = lineFeeds text
      rw [line_feeds_append, line_feeds_append, before, after, Nat.zero_add, Nat.add_zero]

@[simp] theorem line_feeds_glyph (color : Bool) (marker : Marker) :
    lineFeeds (glyph color marker) = 0 := by
  cases color <;> cases marker <;> decide

end Terminal

end Checkup
