import Checkup.Proofs.Pattern.Lines
import Checkup.Proofs.Pattern.Pieces
import Mathlib.Data.List.Forall2

/-!
# The last place on a line

What a line tells, said without an order of attempts: there is a last place on it where something
begins, and what is told is told there. Latest attempts at the places of a line come to the same,
and so the lines of an output tell what these attempts find on them.
-/

namespace Checkup.Pattern

variable {Value : Type}

/-- The last place of a line where something begins. -/
structure LastPlace (begins : Bytes → Prop) (line : Bytes) (place : Nat) : Prop where
  here : begins (line.drop place)
  last : ∀ other, begins (line.drop other) → other ≤ place

/-- What a line tells: nothing if nothing begins on it, else what is told at the last place where
something does. -/
inductive LineTells (begins : Bytes → Prop) (tells : Bytes → Nat → Value → Prop)
    (line : Bytes) : Option Value → Prop
  | nothing (nowhere : ∀ place, ¬ begins (line.drop place)) : LineTells begins tells line none
  | last {place : Nat} {value : Value} (latest : LastPlace begins line place)
      (told : tells line place value) : LineTells begins tells line (some value)

/-- What the lines of an output tell, each of them once or not at all, in their order. -/
def LinesTell (begins : Bytes → Prop) (tells : Bytes → Nat → Value → Prop) (output : Bytes)
    (values : List Value) : Prop :=
  ∃ told, List.Forall₂ (LineTells begins tells) (output.splitOn 10) told ∧
    values = told.reduceOption

/-- What the first line tells on which something begins, the others being passed over. -/
inductive FirstLineTells (begins : Bytes → Prop) (tells : Bytes → Nat → Value → Prop)
    (lines : List Bytes) : Option Value → Prop
  | nothing (nowhere : ∀ line ∈ lines, ∀ place, ¬ begins (line.drop place)) :
      FirstLineTells begins tells lines none
  | first {before rest : List Bytes} {line : Bytes} {value : Value}
      (split : lines = before ++ line :: rest)
      (earlier : ∀ line ∈ before, ∀ place, ¬ begins (line.drop place))
      (told : LineTells begins tells line (some value)) :
      FirstLineTells begins tells lines (some value)

/-- Attempts that succeed exactly where something begins, and find what the line tells there. -/
structure Attempts (begins : Bytes → Prop) (tells : Bytes → Nat → Value → Prop)
    (attempt : Bytes → Nat → Option Value) : Prop where
  nonempty : ¬ begins []
  found : ∀ line place value,
    attempt line place = some value ↔ begins (line.drop place) ∧ tells line place value
  something : ∀ line place, begins (line.drop place) → ∃ value, tells line place value

/-! ## Last places -/

section Places

variable {begins : Bytes → Prop} {line : Bytes}

theorem place_inside (nonempty : ¬ begins []) {place : Nat} (here : begins (line.drop place)) :
    place < line.length := by
  by_contra outside
  rw [List.drop_eq_nil_of_le (Nat.le_of_not_lt outside)] at here
  exact nonempty here

theorem LastPlace.unique {place other : Nat} (latest : LastPlace begins line place)
    (latestToo : LastPlace begins line other) : place = other :=
  Nat.le_antisymm (latestToo.last place latest.here) (latest.last other latestToo.here)

/-- The last place of the rest of a line is the last one of the line. -/
theorem last_place_drop_iff (offset place : Nat) :
    LastPlace begins line (offset + place) ↔ LastPlace begins (line.drop offset) place := by
  have shifted (other : Nat) : (line.drop offset).drop other = line.drop (offset + other) :=
    List.drop_drop
  constructor
  · intro latest
    refine ⟨shifted place ▸ latest.here, fun other begun => ?_⟩
    rw [shifted] at begun
    exact Nat.le_of_add_le_add_left (latest.last _ begun)
  · intro latest
    refine ⟨shifted place ▸ latest.here, fun other begun => ?_⟩
    rcases Nat.le_total other offset with before | behind
    · exact Nat.le_trans before (Nat.le_add_right _ _)
    · obtain ⟨more, rfl⟩ := Nat.exists_eq_add_of_le behind
      rw [← shifted] at begun
      exact Nat.add_le_add_left (latest.last more begun) offset

/-- What comes before the last mark of a text comes before its last place. -/
theorem before_last_iff {mark text piece : Bytes} (nonempty : mark ≠ []) :
    beforeLast? mark text = some piece ↔
      ∃ place, LastPlace (mark <+: ·) text place ∧ piece = text.take place := by
  have ended : ¬ mark <+: [] := fun begins => nonempty (List.prefix_nil.1 begins)
  constructor
  · intro found
    obtain ⟨place, -, here, gone⟩ := latest_some found
    obtain ⟨marked, same⟩ := Option.ite_none_right_eq_some.1 here
    refine ⟨place, ⟨marked, fun other begun => ?_⟩, (Option.some.inj same).symm⟩
    by_contra later
    have missing := gone other (Nat.lt_of_not_le later)
      (Nat.lt_succ_of_lt (place_inside ended begun))
    rw [if_pos begun] at missing
    cases missing
  · rintro ⟨place, latest, rfl⟩
    refine latest_of (Nat.lt_succ_of_lt (place_inside ended latest.here)) (if_pos latest.here) ?_
    intro later beyond _
    exact if_neg fun begun => Nat.not_le_of_lt beyond (latest.last later begun)

theorem before_last_something {mark text : Bytes} (marked : mark <:+: text) :
    ∃ piece, beforeLast? mark text = some piece := by
  obtain ⟨front, rest, split⟩ := marked
  have inside : front.length < text.length + 1 := by
    rw [← split, List.length_append, List.length_append]
    omega
  rw [← Option.isSome_iff_exists, Option.isSome_iff_ne_none]
  intro nothing
  have missing := latest_none_iff.1 nothing front.length inside
  rw [← split, List.append_assoc, List.drop_left, if_pos (List.prefix_append _ _)] at missing
  cases missing

end Places

/-! ## Latest attempts -/

namespace Attempts

variable {begins : Bytes → Prop} {tells : Bytes → Nat → Value → Prop}
  {attempt : Bytes → Nat → Option Value} (attempts : Attempts begins tells attempt)

include attempts

theorem none_iff {line : Bytes} {place : Nat} :
    attempt line place = none ↔ ¬ begins (line.drop place) := by
  constructor
  · intro missing here
    obtain ⟨value, told⟩ := attempts.something line place here
    rw [(attempts.found line place value).2 ⟨here, told⟩] at missing
    cases missing
  · intro other
    rw [Option.eq_none_iff_forall_ne_some]
    intro value found
    exact other ((attempts.found line place value).1 found).1

theorem latest_none_iff {line : Bytes} :
    latest? (attempt line) (line.length + 1) = none ↔ ∀ place, ¬ begins (line.drop place) := by
  rw [Pattern.latest_none_iff]
  constructor
  · intro nothing place here
    have inside := place_inside attempts.nonempty here
    exact attempts.none_iff.1 (nothing place (Nat.lt_succ_of_lt inside)) here
  · intro nowhere place _
    exact attempts.none_iff.2 (nowhere place)

theorem latest_some_iff {line : Bytes} {value : Value} :
    latest? (attempt line) (line.length + 1) = some value ↔
      ∃ place, LastPlace begins line place ∧ tells line place value := by
  constructor
  · intro found
    obtain ⟨place, -, here, gone⟩ := latest_some found
    obtain ⟨begun, told⟩ := (attempts.found line place value).1 here
    refine ⟨place, ⟨begun, fun other another => ?_⟩, told⟩
    by_contra later
    have inside := place_inside attempts.nonempty another
    exact attempts.none_iff.1
      (gone other (Nat.lt_of_not_le later) (Nat.lt_succ_of_lt inside)) another
  · rintro ⟨place, latest, told⟩
    refine latest_of (Nat.lt_succ_of_lt (place_inside attempts.nonempty latest.here))
      ((attempts.found line place value).2 ⟨latest.here, told⟩) fun later beyond _ => ?_
    exact attempts.none_iff.2 fun another => Nat.not_le_of_lt beyond (latest.last later another)

/-- What a line tells is what the latest attempt on it finds. -/
theorem line_tells_iff (line : Bytes) (told : Option Value) :
    LineTells begins tells line told ↔ told = latest? (attempt line) (line.length + 1) := by
  constructor
  · rintro (nowhere | ⟨latest, told⟩)
    · exact (attempts.latest_none_iff.2 nowhere).symm
    · exact (attempts.latest_some_iff.2 ⟨_, latest, told⟩).symm
  · intro same
    cases told with
    | none => exact .nothing (attempts.latest_none_iff.1 same.symm)
    | some value =>
        obtain ⟨place, latest, told⟩ := attempts.latest_some_iff.1 same.symm
        exact .last latest told

theorem lines_tell_iff (output : Bytes) (values : List Value) :
    LinesTell begins tells output values ↔
      values = (output.splitOn 10).filterMap fun line =>
        latest? (attempt line) (line.length + 1) := by
  let found (line : Bytes) : Option Value := latest? (attempt line) (line.length + 1)
  have relation : LineTells begins tells = fun line told => found line = told :=
    funext₂ fun line told => propext ((attempts.line_tells_iff line told).trans eq_comm)
  have each (told : List (Option Value)) :
      List.Forall₂ (LineTells begins tells) (output.splitOn 10) told ↔
        (output.splitOn 10).map found = told := by
    rw [relation, ← List.forall₂_map_left_iff (R := Eq), List.forall₂_eq_eq_eq]
  have reduced (told : List (Option Value)) : told.reduceOption = told.filterMap id := rfl
  simp only [LinesTell, each, exists_eq_left', reduced, List.filterMap_map]
  rfl

theorem first_line_tells_iff (lines : List Bytes) (told : Option Value) :
    FirstLineTells begins tells lines told ↔
      told = lines.findSome? fun line => latest? (attempt line) (line.length + 1) := by
  constructor
  · rintro (nowhere | ⟨split, earlier, told⟩)
    · refine (List.findSome?_eq_none_iff.2 fun line member => ?_).symm
      exact attempts.latest_none_iff.2 (nowhere line member)
    · refine (List.findSome?_eq_some_iff.2 ⟨_, _, _, split, ?_, fun line member => ?_⟩).symm
      · exact ((attempts.line_tells_iff _ _).1 told).symm
      · exact attempts.latest_none_iff.2 (earlier line member)
  · intro same
    cases told with
    | none =>
        refine .nothing fun line member => attempts.latest_none_iff.1 ?_
        exact List.findSome?_eq_none_iff.1 same.symm line member
    | some value =>
        obtain ⟨before, line, rest, split, here, earlier⟩ := List.findSome?_eq_some_iff.1 same.symm
        refine .first split (fun line member => ?_) ((attempts.line_tells_iff line _).2 here.symm)
        exact attempts.latest_none_iff.1 (earlier line member)

end Attempts

end Checkup.Pattern
