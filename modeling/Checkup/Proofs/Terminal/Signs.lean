import Checkup.Terminal.Screen

/-!
# Signs and emphasis

What the terminal prints around a text, character by character: the sign of a marker, bold text,
and the blanks before a number in a column.
-/

namespace Checkup.Terminal

/-- The sign of a marker is a cross or a dot. Where colours are wanted the cross is red and the dot
is yellow. -/
inductive Sign : (color : Bool) → Marker → String → Prop
  | cross : Sign false .cross "✖"
  | redCross : Sign true .cross "\x1b[31m✖\x1b[39m"
  | dot : Sign false .dot "●"
  | yellowDot : Sign true .dot "\x1b[33m●\x1b[39m"

theorem sign_glyph (color : Bool) (marker : Marker) : Sign color marker (glyph color marker) := by
  cases color with
  | false =>
      cases marker with
      | cross => exact .cross
      | dot => exact .dot
  | true =>
      cases marker with
      | cross => exact .redCross
      | dot => exact .yellowDot

/-- The same text, or bold where colours are wanted. -/
inductive Emphasis (text : String) : (color : Bool) → String → Prop
  | plain : Emphasis text false text
  | bold : Emphasis text true ("\x1b[1m" ++ text ++ "\x1b[0m")

theorem emphasis_styled (color : Bool) (text : String) :
    Emphasis text color (styled color bold text) := by
  cases color with
  | false => exact .plain
  | true => exact .bold

theorem blanks_of_pushn (count : Nat) : ("".pushn ' ' count).toList = List.replicate count ' ' := by
  induction count with
  | zero => rfl
  | succ count ih =>
      change (("".pushn ' ' count).push ' ').toList = _
      rw [String.toList_push, ih, List.replicate_succ']

/-- A text at the end of some columns, of which it may need more. -/
theorem pad_left_blanks (width : Nat) (text : String) :
    ∃ blanks : String, blanks.toList = List.replicate (width - text.length) ' ' ∧
      padLeft width text = blanks ++ text :=
  ⟨_, blanks_of_pushn _, rfl⟩

end Checkup.Terminal
