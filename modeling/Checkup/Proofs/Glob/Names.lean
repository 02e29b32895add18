import Checkup.Glob
import Mathlib.Data.List.Chain
import Mathlib.Tactic.Common

/-!
# What a pattern covers

A pattern covers a way of names when each of its segments matches the name at its place, and a
segment that descends stands for any number of names. Without brackets, a text that is read as a
pattern covers the names that it is written with.
-/

namespace Checkup.Glob

/-- A name that an entry of a directory can have. -/
def IsProper (name : List Char) : Prop := name ≠ [] ∧ name ≠ ['.'] ∧ name ≠ ['.', '.']

instance (name : List Char) : Decidable (IsProper name) :=
  inferInstanceAs (Decidable (name ≠ [] ∧ name ≠ ['.'] ∧ name ≠ ['.', '.']))

/-! ## Names -/

theorem matches_anything {pieces : List Piece} {name : List Char}
    (matched : matchesName pieces name = true) (front : List Char) :
    matchesName (.anything :: pieces) (front ++ name) = true := by
  induction front with
  | nil =>
      rw [List.nil_append]
      cases name with
      | nil => rw [matchesName, matched, Bool.true_or]
      | cons char rest => rw [matchesName, matched, Bool.true_or]
  | cons char rest ih => rw [List.cons_append, matchesName, ih, Bool.or_true]

/-- Only brackets can be read as something else than they are written with. -/
theorem matches_own {text : List Char} (plain : '[' ∉ text) {pieces : List Piece}
    (read : segmentPieces? text = some pieces) : matchesName pieces text = true := by
  fun_induction segmentPieces? text generalizing pieces with
  | case1 =>
      cases read
      rw [matchesName]
      rfl
  | case2 rest ih =>
      obtain ⟨later, found, rfl⟩ := Option.map_eq_some_iff.1 read
      have matched := ih (fun member => plain (List.mem_cons_of_mem _ member)) found
      rw [matchesName]
      · simp [Piece.accepts, matched]
      · exact Piece.noConfusion
  | case3 => cases read
  | case4 rest _ ih =>
      obtain ⟨later, found, rfl⟩ := Option.map_eq_some_iff.1 read
      have matched := ih (fun member => plain (List.mem_cons_of_mem _ member)) found
      exact matches_anything matched ['*']
  | case5 => exact absurd List.mem_cons_self plain
  | case6 => exact absurd List.mem_cons_self plain
  | case7 => exact absurd List.mem_cons_self plain
  | case8 => exact absurd List.mem_cons_self plain
  | case9 char rest _ _ _ _ _ ih =>
      obtain ⟨later, found, rfl⟩ := Option.map_eq_some_iff.1 read
      have matched := ih (fun member => plain (List.mem_cons_of_mem _ member)) found
      rw [matchesName]
      · simp [Piece.accepts, matched]
      · exact Piece.noConfusion

theorem matches_char (char given : Char) (pieces : List Piece) (rest : List Char) :
    matchesName (.char char :: pieces) (given :: rest) =
      (decide (char = given) && matchesName pieces rest) := by
  rw [matchesName]
  · rfl
  · exact Piece.noConfusion

/-- A segment without wildcards matches the one name that it stands for. -/
theorem matches_literal {pieces : List Piece} {literal : String}
    (found : (Segment.pieces pieces).literal? = some literal) {name : List Char}
    (matched : matchesName pieces name = true) : name = literal.toList := by
  obtain ⟨chars, spelled, rfl⟩ := Option.map_eq_some_iff.1 found
  rw [String.toList_ofList]
  clear found
  induction pieces generalizing chars name with
  | nil =>
      cases spelled
      rw [matchesName] at matched
      exact List.isEmpty_iff.1 matched
  | cons piece rest ih =>
      rw [List.mapM_cons] at spelled
      obtain ⟨char, own, spelled⟩ := Option.bind_eq_some_iff.1 spelled
      obtain ⟨others, later, same⟩ := Option.bind_eq_some_iff.1 spelled
      cases same
      cases piece with
      | char letter =>
          cases own
          cases name with
          | nil =>
              rw [matchesName] at matched
              · cases matched
              · exact Piece.noConfusion
          | cons given behind =>
              rw [matches_char, Bool.and_eq_true, decide_eq_true_iff] at matched
              rw [ih matched.2 others later, matched.1]
      | _ => cases own

theorem literal_of_chars (chars : List Char) :
    (Segment.pieces (chars.map .char)).literal? = some (String.ofList chars) := by
  have spelled : chars.mapM (fun char => (pure (id char) : Option Char)) = some chars := by
    rw [List.mapM_pure, List.map_id]
    rfl
  rw [Segment.literal?, List.mapM_map]
  exact congrArg (Option.map String.ofList) spelled

/-- A name without wildcards is read as it is. -/
theorem pieces_of_plain {text : List Char} (plain : text.any isWildcard = false)
    {pieces : List Piece} (read : segmentPieces? text = some pieces) :
    pieces = text.map .char := by
  fun_induction segmentPieces? text generalizing pieces with
  | case1 =>
      cases read
      rfl
  | case9 char rest _ _ _ _ _ ih =>
      obtain ⟨later, found, rfl⟩ := Option.map_eq_some_iff.1 read
      rw [List.any_cons, Bool.or_eq_false_iff] at plain
      rw [List.map_cons, ih plain.2 found]
  | _ => simp [isWildcard] at plain

theorem wild_of_read {text : List Char} {pieces : List Piece}
    (read : segmentPieces? text = some pieces) (wild : (Segment.pieces pieces).literal? = none) :
    text.any isWildcard = true := by
  by_contra plain
  rw [Bool.not_eq_true] at plain
  rw [pieces_of_plain plain read, literal_of_chars] at wild
  cases wild

theorem proper_of_wild {text : List Char} {pieces : List Piece}
    (read : segmentPieces? text = some pieces) (wild : (Segment.pieces pieces).literal? = none) :
    IsProper text := by
  have literal (chars : List Char) (plain : segmentPieces? chars = some (chars.map .char)) :
      text ≠ chars := by
    rintro rfl
    rw [plain] at read
    cases read
    rw [literal_of_chars] at wild
    cases wild
  exact ⟨literal [] (by simp [segmentPieces?]), literal ['.'] (by simp [segmentPieces?]),
    literal ['.', '.'] (by simp [segmentPieces?])⟩

/-! ## Ways of names -/

/-- Some segments cover a way, name by name. What stands behind a segment that descends begins with
a name that an entry can have, and so does every name that the segment itself stands for. Only a
name without wildcards is looked up where nothing is listed. -/
inductive Covers (listed : List (List Char) → Prop) : List Segment → List (List Char) → Prop
  | nil : Covers listed [] []
  | name {pieces : List Piece} {name : List Char} {segments : List Segment}
      {names : List (List Char)} (matched : matchesName pieces name = true)
      (wild : (Segment.pieces pieces).literal? = none → IsProper name ∧ listed (name :: names))
      (rest : Covers listed segments names) :
      Covers listed (.pieces pieces :: segments) (name :: names)
  | skip {name : List Char} {segments : List Segment} {names : List (List Char)}
      (proper : IsProper name) (here : listed (name :: names))
      (rest : Covers listed segments (name :: names)) :
      Covers listed (.descend :: segments) (name :: names)
  | descend {name : List Char} {segments : List Segment} {names : List (List Char)}
      (proper : IsProper name) (here : listed (name :: names))
      (rest : Covers listed (.descend :: segments) names) :
      Covers listed (.descend :: segments) (name :: names)

variable {listed : List (List Char) → Prop}

theorem covers_nothing {segments : List Segment} (covers : Covers listed segments []) :
    segments = [] := by
  cases covers
  rfl

/-- To descend twice is to descend once. -/
theorem covers_once {segments : List Segment} {names : List (List Char)}
    (covers : Covers listed (.descend :: .descend :: segments) names) :
    Covers listed (.descend :: segments) names := by
  induction names with
  | nil => cases covers_nothing covers
  | cons name rest ih =>
      cases covers with
      | skip _ _ once => exact once
      | descend proper here later => exact .descend proper here (ih later)

theorem covers_joined {segments : List Segment} {names : List (List Char)}
    (covers : Covers listed segments names) : Covers listed (joinDescents segments) names := by
  fun_induction joinDescents segments with
  | case1 rest ih => exact ih (covers_once covers)
  | case2 => exact covers

theorem joined_apart (segments rest : List Segment) :
    joinDescents segments ≠ .descend :: .descend :: rest := by
  fun_induction joinDescents segments with
  | case1 _ ih => exact ih
  | case2 segments apart => exact fun same => apart rest same

/-! ## Patterns that name themselves -/

/-- The names that a text is written with, behind the slash that it may begin with. -/
def parts (text : String) : List (List Char) :=
  let chars := text.toList
  pathSegments (if chars.head? = some '/' then chars.drop 1 else chars)

def stars : List Char := ['*', '*']

/-- A text that covers the path it spells when it is read as a pattern. Brackets match the
characters that they are written with, two stars stand before a name that an entry can have, and
no name is left out behind a beginning of dots. -/
structure NamesItself (text : String) : Prop where
  brackets : ∀ part ∈ parts text, '[' ∈ part →
    (segmentPieces? part).all (matchesName · part) = true
  descents : (parts text).IsChain fun part next => part = stars → IsProper next
  lead : text.toList.head? ≠ some '/' →
    ((parts text).dropWhile (· = ['.'])).head? ≠ some []

/-- A directory on a way of names in which a pattern looks for the next name by listing it: the name
has a wildcard, or two stars stand before it. -/
def Looks (before rest : List (List Char)) : Prop :=
  rest.head?.any (·.any isWildcard) = true ∨ before.getLast? = some stars

instance (before rest : List (List Char)) : Decidable (Looks before rest) :=
  inferInstanceAs (Decidable (_ ∨ _))

theorem covers_parts {names : List (List Char)} {segments : List Segment}
    (read : names.mapM segment? = some segments)
    (brackets : ∀ name ∈ names, '[' ∈ name →
      (segmentPieces? name).all (matchesName · name) = true)
    (descents : names.IsChain fun name next => name = stars → IsProper next)
    (ends : names.getLast? ≠ some stars)
    (looked : ∀ before rest, names = before ++ rest → Looks before rest → listed rest) :
    Covers listed segments names := by
  induction names generalizing segments with
  | nil =>
      cases read
      exact .nil
  | cons name rest ih =>
      rw [List.mapM_cons] at read
      obtain ⟨segment, own, read⟩ := Option.bind_eq_some_iff.1 read
      obtain ⟨others, later, same⟩ := Option.bind_eq_some_iff.1 read
      cases same
      have behind (before further : List (List Char)) (split : rest = before ++ further)
          (looks : Looks before further) : listed further := by
        apply looked (name :: before) further (by rw [split, List.cons_append])
        refine looks.imp_right fun doubled => ?_
        cases before with
        | nil => cases doubled
        | cons first between => rw [List.getLast?_cons_cons, doubled]
      rw [segment?] at own
      split at own
      · -- Two stars stand for the name that they are, and then for nothing more.
        rename_i double
        cases own
        cases rest with
        | nil => exact absurd (congrArg some double) ends
        | cons next further =>
            have proper : IsProper next := (List.isChain_cons_cons.1 descents).1 double
            have covered : Covers listed others (next :: further) := by
              apply ih later
              · exact fun other member => brackets other (List.mem_cons_of_mem _ member)
              · exact (List.isChain_cons_cons.1 descents).2
              · rwa [List.getLast?_cons_cons] at ends
              · exact behind
            have starred : IsProper name := by
              rw [double]
              decide
            have here : listed (name :: next :: further) := by
              apply looked [] _ rfl
              rw [double]
              exact .inl rfl
            have inside : listed (next :: further) := by
              apply looked [name] _ rfl
              rw [double]
              exact .inr rfl
            exact .descend starred here (.skip proper inside covered)
      · obtain ⟨pieces, found, rfl⟩ := Option.map_eq_some_iff.1 own
        refine .name ?_ (fun wild => ⟨proper_of_wild found wild, ?_⟩) ?_
        · by_cases bracket : '[' ∈ name
          · have matched := brackets name List.mem_cons_self bracket
            rw [found] at matched
            exact matched
          · exact matches_own bracket found
        · exact looked [] _ rfl (.inl (wild_of_read found wild))
        · apply ih later
          · exact fun other member => brackets other (List.mem_cons_of_mem _ member)
          · exact descents.tail
          · intro last
            apply ends
            cases rest with
            | nil => cases last
            | cons next further => rw [List.getLast?_cons_cons, last]
          · exact behind

end Checkup.Glob
