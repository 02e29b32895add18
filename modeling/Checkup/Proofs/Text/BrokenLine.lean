import Checkup.Proofs.Text.ReferenceScan

/-!
# Line feeds that references bring

A body of a reference holds neither an ampersand nor a line feed. So no line feed is lost when
references are resolved, every reference of a text is resolved wherever it begins, and a line feed
that was not in the text comes from the value of one of them.
-/

namespace Checkup.Text.Entity

/-- A reference begins somewhere in a text and stands for characters with a line feed. -/
def BringsFeed (text : List Char) : Prop :=
  ∃ tail body value rest, tail <:+ text ∧ ReferenceAt tail body value rest ∧ '\n' ∈ value

variable {text body value rest : List Char}

theorem ReferenceAt.value_unique {bodyToo valueToo restToo : List Char}
    (reference : ReferenceAt text body value rest)
    (referenceToo : ReferenceAt text bodyToo valueToo restToo) : value = valueToo := by
  obtain ⟨tail, rfl, found⟩ := reference.found
  have foundToo := reference_iff.2 ⟨_, referenceToo⟩
  rw [found] at foundToo
  exact congrArg (·.1) (Option.some.inj foundToo)

/-- Behind the ampersand of a reference the next one begins behind its semicolon. -/
theorem ReferenceAt.next {bodyToo valueToo restToo tail : List Char}
    (reference : ReferenceAt text body value rest) (suffix : tail <:+ text) (shorter : tail ≠ text)
    (referenceToo : ReferenceAt tail bodyToo valueToo restToo) : tail <:+ rest := by
  have passed (skipped : List Char) (plain : '&' ∉ skipped) {left : List Char}
      (inside : tail <:+ skipped ++ left) : tail <:+ left := by
    induction skipped with
    | nil => exact inside
    | cons char skipped ih =>
        obtain ⟨other, later⟩ := not_or.1 (mt List.mem_cons.2 plain)
        rcases List.suffix_cons_iff.1 inside with here | behind
        · rw [referenceToo.spelled] at here
          exact absurd (List.cons.inj here).1 other
        · exact ih later behind
  have plain : '&' ∉ body ++ [';'] := by
    rw [List.mem_append, List.mem_singleton]
    rintro (member | same)
    · exact absurd (reference.isBody.plain '&' member) (by decide)
    · exact absurd same (by decide)
  rw [reference.spelled] at suffix shorter
  have behind := (List.suffix_cons_iff.1 suffix).resolve_left shorter
  rw [List.append_cons] at behind
  exact passed _ plain behind

/-- At a reference: its own value is put out, and the rest is read on its own. -/
theorem brings_feed_resolved (reference : ReferenceAt text body value rest) :
    ('\n' ∈ text ∨ BringsFeed text) ↔ '\n' ∈ value ∨ '\n' ∈ rest ∨ BringsFeed rest := by
  have plain : '\n' ∈ text ↔ '\n' ∈ rest := by
    have outside : '\n' ∉ body := fun member =>
      absurd (reference.isBody.plain '\n' member) (by decide)
    rw [reference.spelled]
    simp only [List.mem_cons, List.mem_append, outside, false_or, Char.reduceEq]
  have within : rest <:+ text := by
    rw [reference.spelled, List.append_cons]
    exact (List.suffix_append _ _).trans (List.suffix_cons _ _)
  constructor
  · rintro (member | ⟨tail, bodyToo, valueToo, restToo, suffix, referenceToo, feed⟩)
    · exact .inr (.inl (plain.1 member))
    · by_cases same : tail = text
      · subst same
        rw [reference.value_unique referenceToo]
        exact .inl feed
      · exact .inr (.inr ⟨tail, bodyToo, valueToo, restToo,
          reference.next suffix same referenceToo, referenceToo, feed⟩)
  · rintro (feed | member | ⟨tail, bodyToo, valueToo, restToo, suffix, referenceToo, feed⟩)
    · exact .inr ⟨text, body, value, rest, List.suffix_refl _, reference, feed⟩
    · exact .inl (plain.2 member)
    · exact .inr ⟨tail, bodyToo, valueToo, restToo, suffix.trans within, referenceToo, feed⟩

/-- Anywhere else one character is copied. -/
theorem brings_feed_copied {char : Char} (unreferenced : Unreferenced (char :: rest)) :
    ('\n' ∈ char :: rest ∨ BringsFeed (char :: rest)) ↔
      char = '\n' ∨ '\n' ∈ rest ∨ BringsFeed rest := by
  have later : BringsFeed (char :: rest) ↔ BringsFeed rest := by
    constructor
    · rintro ⟨tail, body, value, after, suffix, reference, feed⟩
      rcases List.suffix_cons_iff.1 suffix with rfl | behind
      · exact absurd reference (unreferenced _ _ _)
      · exact ⟨tail, body, value, after, behind, reference, feed⟩
    · rintro ⟨tail, body, value, after, suffix, reference, feed⟩
      exact ⟨tail, body, value, after, suffix.trans (List.suffix_cons _ _), reference, feed⟩
  rw [later, List.mem_cons, or_assoc, eq_comm]

theorem feed_scanned_iff {out : List Char} (scanned : Scanned text out) :
    '\n' ∈ out ↔ '\n' ∈ text ∨ BringsFeed text := by
  induction scanned with
  | done =>
      constructor
      · exact fun member => nomatch member
      · rintro (member | ⟨tail, body, value, rest, suffix, reference, -⟩)
        · exact nomatch member
        · rw [List.suffix_nil.1 suffix] at reference
          exact nomatch reference.spelled
  | resolve reference later ih => rw [List.mem_append, ih, brings_feed_resolved reference]
  | copy unreferenced later ih =>
      rw [List.mem_cons, ih, brings_feed_copied unreferenced, eq_comm]

/-- When its references are resolved, a text has a line feed if it had one before or if one of its
references brings one. -/
theorem feed_unescaped_iff (text : List Char) :
    '\n' ∈ unescapeChars text ↔ '\n' ∈ text ∨ BringsFeed text :=
  feed_scanned_iff (scanned_unescape text)

end Checkup.Text.Entity
