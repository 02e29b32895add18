import Checkup.Proofs.Text.Entity
import Mathlib.Data.List.TakeWhile

/-!
# The scan for references

References are resolved as if the text were read character by character: where a reference begins,
what it stands for is put out and the reading goes on behind its semicolon, and anywhere else one
character is copied.
-/

namespace Checkup.Text.Entity

/-- What may stand between an ampersand and a semicolon. -/
structure IsBody (body : List Char) : Prop where
  nonempty : body ≠ []
  short : body.length ≤ 32
  plain : ∀ char ∈ body, isBodyChar char = true

/-- A text begins with a reference that can be resolved. -/
structure ReferenceAt (text body value rest : List Char) : Prop where
  spelled : text = '&' :: (body ++ ';' :: rest)
  isBody : IsBody body
  resolved : resolve? body = some value

def Unreferenced (text : List Char) : Prop := ∀ body value rest, ¬ ReferenceAt text body value rest

/-- A text and what is put out when it is read character by character. -/
inductive Scanned : List Char → List Char → Prop
  | done : Scanned [] []
  | resolve {text body value rest out : List Char} (reference : ReferenceAt text body value rest)
      (later : Scanned rest out) : Scanned text (value ++ out)
  | copy {char : Char} {rest out : List Char} (unreferenced : Unreferenced (char :: rest))
      (later : Scanned rest out) : Scanned (char :: rest) (char :: out)

theorem split_body_iff {tail body rest : List Char} :
    splitBody? tail = some (body, rest) ↔ tail = body ++ ';' :: rest ∧ IsBody body := by
  constructor
  · intro found
    have whole := List.takeWhile_append_dropWhile (p := isBodyChar) (l := tail)
    unfold splitBody? at found
    dsimp only at found
    split at found
    · rename_i after ended
      rw [ended] at whole
      split at found
      · cases found
      · rename_i accepted
        cases found
        simp only [Bool.or_eq_true, List.isEmpty_iff, decide_eq_true_eq, not_or, Nat.not_lt]
          at accepted
        exact ⟨whole.symm, accepted.1, accepted.2, fun _ => List.mem_takeWhile_imp⟩
    · cases found
  · rintro ⟨rfl, nonempty, short, plain⟩
    have taken : (body ++ ';' :: rest).takeWhile isBodyChar = body := by
      rw [List.takeWhile_append_of_pos plain, List.takeWhile_cons_of_neg (by decide),
        List.append_nil]
    have left : (body ++ ';' :: rest).dropWhile isBodyChar = ';' :: rest := by
      rw [List.dropWhile_append_of_pos plain, List.dropWhile_cons_of_neg (by decide)]
    have accepted : ¬ (body.isEmpty || decide (maxBodyLength < body.length)) = true := by
      simp only [Bool.or_eq_true, List.isEmpty_iff, decide_eq_true_eq, not_or, Nat.not_lt]
      exact ⟨nonempty, short⟩
    unfold splitBody?
    dsimp only
    rw [left, taken]
    exact if_neg accepted

theorem reference_iff {tail value rest : List Char} :
    reference? tail = some (value, rest) ↔ ∃ body, ReferenceAt ('&' :: tail) body value rest := by
  constructor
  · intro found
    unfold reference? at found
    split at found
    · rename_i body after split
      obtain ⟨spelled, isBody⟩ := split_body_iff.1 split
      obtain ⟨_, resolved, same⟩ := Option.map_eq_some_iff.1 found
      cases same
      exact ⟨body, congrArg _ spelled, isBody, resolved⟩
    · cases found
  · rintro ⟨body, spelled, isBody, resolved⟩
    have split := split_body_iff.2 ⟨List.tail_eq_of_cons_eq spelled, isBody⟩
    rw [reference?, split]
    dsimp only
    rw [resolved]
    rfl

theorem ReferenceAt.found {text body value rest : List Char}
    (reference : ReferenceAt text body value rest) :
    ∃ tail, text = '&' :: tail ∧ reference? tail = some (value, rest) := by
  have spelled := reference.spelled
  subst spelled
  exact ⟨_, rfl, reference_iff.2 ⟨body, reference⟩⟩

theorem reference_none_iff {tail : List Char} :
    reference? tail = none ↔ Unreferenced ('&' :: tail) := by
  constructor
  · intro missing body value rest reference
    have found := reference_iff.2 ⟨body, reference⟩
    rw [missing] at found
    cases found
  · intro unreferenced
    cases found : reference? tail with
    | none => rfl
    | some resolved =>
        obtain ⟨body, reference⟩ := reference_iff.1 found
        exact absurd reference (unreferenced _ _ _)

theorem unescape_resolved {text body value rest : List Char}
    (reference : ReferenceAt text body value rest) :
    unescapeChars text = value ++ unescapeChars rest := by
  obtain ⟨tail, rfl, found⟩ := reference.found
  exact unescape_reference found

theorem unescape_copied {char : Char} {rest : List Char}
    (unreferenced : Unreferenced (char :: rest)) :
    unescapeChars (char :: rest) = char :: unescapeChars rest := by
  by_cases ampersand : char = '&'
  · subst ampersand
    exact unescape_failed (reference_none_iff.2 unreferenced)
  · exact unescape_plain ampersand rest

theorem unescape_of_scanned {text out : List Char} (scanned : Scanned text out) :
    unescapeChars text = out := by
  induction scanned with
  | done => exact unescape_nil
  | resolve reference later ih => rw [unescape_resolved reference, ih]
  | copy unreferenced later ih => rw [unescape_copied unreferenced, ih]

theorem ReferenceAt.shorter {text body value rest : List Char}
    (reference : ReferenceAt text body value rest) : rest.length < text.length := by
  rw [reference.spelled, List.length_cons, List.length_append, List.length_cons]
  omega

/-- Every text can be read to its end. -/
theorem scanned_unescape (text : List Char) : Scanned text (unescapeChars text) := by
  induction length : text.length using Nat.strongRecOn generalizing text with
  | ind bound ih =>
      by_cases referenced : ∃ body value rest, ReferenceAt text body value rest
      · obtain ⟨body, value, rest, reference⟩ := referenced
        rw [unescape_resolved reference]
        exact .resolve reference (ih _ (length ▸ reference.shorter) rest rfl)
      · have unreferenced : Unreferenced text := fun body value rest reference =>
          referenced ⟨body, value, rest, reference⟩
        cases text with
        | nil =>
            rw [unescape_nil]
            exact .done
        | cons char rest =>
            rw [unescape_copied unreferenced]
            exact .copy unreferenced (ih _ (length ▸ Nat.lt_succ_self _) rest rfl)

theorem unescape_unreferenced {text : List Char}
    (unreferenced : ∀ rest, rest <:+ text → Unreferenced rest) : unescapeChars text = text := by
  induction text with
  | nil => exact unescape_nil
  | cons char rest ih =>
      rw [unescape_copied (unreferenced _ (List.suffix_refl _)),
        ih fun later suffix => unreferenced later (suffix.trans (List.suffix_cons _ _))]

end Checkup.Text.Entity
