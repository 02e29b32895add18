import Mathlib.Data.List.TakeWhile

/-!
# Pieces between separators

A text is cut at every separator, so that its pieces hold none.
-/

namespace Checkup.Text

variable {Item : Type} [DecidableEq Item]

/-- Texts are built from pieces without a separator, one before the other. -/
theorem split_induction (separator : Item) {motive : List Item → Prop}
    (whole : ∀ text, separator ∉ text → motive text)
    (split : ∀ front rest, separator ∉ front → motive rest → motive (front ++ separator :: rest))
    (text : List Item) : motive text := by
  induction length : text.length using Nat.strongRecOn generalizing text with
  | ind bound ih =>
      by_cases divided : separator ∈ text
      · obtain ⟨front, rest, rfl, piece⟩ := List.eq_append_cons_of_mem divided
        refine split front rest piece (ih rest.length ?_ rest rfl)
        rw [← length, List.length_append, List.length_cons]
        omega
      · exact whole text divided

theorem piece_whole {separator : Item} {text piece : List Item}
    (member : piece ∈ text.splitOn separator) : separator ∉ piece := by
  induction text using split_induction separator with
  | whole text undivided =>
      rw [List.splitOn_eq_singleton undivided] at member
      rw [List.mem_singleton.1 member]
      exact undivided
  | split front rest undivided ih =>
      rw [List.splitOn_append_cons_self_of_not_mem undivided] at member
      rcases List.mem_cons.1 member with first | later
      · rw [first]
        exact undivided
      · exact ih later

end Checkup.Text
