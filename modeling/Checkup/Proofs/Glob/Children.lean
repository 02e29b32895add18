import Checkup.Glob
import Checkup.Proofs.FileTree
import Checkup.Proofs.Path.Way

/-!
# Paths of entries

The path of an entry leads below the path of its directory, however that one is written. Only the
path of the working directory itself is left out.
-/

namespace Checkup

open FileTree (base follow_append_iff follow_cons_iff follow_idle directory_of_follow locate_iff
  leads_of_locate)

namespace Path

variable {name : Bytes} (slashless : slash ∉ name)

/-- Only a path of dots is the working directory by its text. -/
theorem components_current_iff {path : Path} :
    path.components = [.current] ↔
      path.isAbsolute = false ∧ path.startsHere = true ∧ path.steps = [] := by
  have moving : path.segments.filterMap componentOfSegment? = path.steps.map componentOfStep :=
    components_of_segments path.segments
  rw [components, moving]
  cases path.isAbsolute with
  | true => simp
  | false =>
      cases path.startsHere with
      | true => simp
      | false =>
          constructor
          · intro same
            obtain ⟨step, rest, -, current, -⟩ := List.map_eq_cons_iff.1 same
            rw [componentOfStep] at current
            split at current <;> cases current
          · rintro ⟨-, here, -⟩
            cases here

theorem file_name_of_segments {path : Path} {front : List Bytes} (proper : IsName name)
    (segments : path.segments = front ++ [name]) : path.fileName? = some name := by
  have last : componentOfSegment? name = some (.name name) := by
    rw [componentOfSegment?, if_neg (fun same => same.elim proper.moves.1 proper.moves.2),
      if_neg proper.descends]
  rw [fileName?, components, segments, List.filterMap_append, List.filterMap_cons_some last,
    List.filterMap_nil, ← List.append_assoc, List.getLast?_concat]

include slashless

theorem piece_relative : (⟨name⟩ : Path).isAbsolute = false := by
  cases text : name with
  | nil => rfl
  | cons byte rest =>
      have other : byte ≠ slash := by
        intro same
        rw [text, same] at slashless
        exact slashless List.mem_cons_self
      simpa [isAbsolute] using other

/-- A piece is joined behind a slash, which the directory may already end with. -/
theorem join_piece {directory : Path} (something : directory.text ≠ []) :
    ∃ front, front ≠ [] ∧ (directory.join ⟨name⟩).segments = front ++ [name] ∧
      (directory.segments = front ∨ directory.segments = front ++ [[]]) ∧
        (directory.join ⟨name⟩).isAbsolute = directory.isAbsolute := by
  have nonempty (text : Bytes) : text.splitOn slash ≠ [] := List.splitOnP_ne_nil _ _
  have first (rest : Bytes) : (⟨directory.text ++ rest⟩ : Path).isAbsolute =
      directory.isAbsolute := by
    cases text : directory.text with
    | nil => exact absurd text something
    | cons byte more => simp [isAbsolute, text]
  unfold join
  rw [piece_relative slashless, Bool.false_or, if_neg (mt List.isEmpty_iff.1 something)]
  split
  · rename_i ends
    obtain ⟨text, spelled⟩ := List.getLast?_eq_some_iff.1 (eq_of_beq ends)
    refine ⟨text.splitOn slash, nonempty text, ?_, .inr ?_, first name⟩
    · rw [segments, spelled, List.append_assoc, List.singleton_append, split_at_slash,
        split_slashless slashless]
    · rw [segments, spelled, split_at_slash]
      rfl
  · refine ⟨directory.segments, nonempty _, ?_, .inl rfl, first (slash :: name)⟩
    rw [segments, split_at_slash, split_slashless slashless]
    rfl

end Path

namespace Glob

open Checkup.Path (IsName slash dot components_current_iff split_slashless)

variable {directory : Path} {name : Bytes}

/-- How many bytes of a path below a directory come before the name. -/
def reach (directory : Path) : Nat :=
  if directory.components = [.current] then 0
  else if directory.text.getLast? == some slash then directory.text.length
  else directory.text.length + 1

theorem child_current (current : directory.components = [.current]) :
    child directory name = ⟨name⟩ := if_pos current

theorem child_joined (joined : directory.components ≠ [.current]) :
    child directory name = directory.join ⟨name⟩ := if_neg joined

theorem child_length (slashless : slash ∉ name) (something : directory.text ≠ []) :
    (child directory name).text.length = reach directory + name.length := by
  unfold reach
  split
  · rename_i current
    rw [child_current current, Nat.zero_add]
  · rename_i joined
    rw [child_joined joined, Path.join, Path.piece_relative slashless, Bool.false_or,
      if_neg (mt List.isEmpty_iff.1 something)]
    split
    · exact List.length_append
    · dsimp only
      rw [List.length_append, List.length_cons]
      omega

theorem reach_le (directory : Path) : reach directory ≤ directory.text.length + 1 := by
  unfold reach
  split
  · omega
  split
  · omega
  · exact Nat.le_refl _

theorem child_segments (slashless : slash ∉ name) (something : directory.text ≠ []) :
    ∃ front, (child directory name).segments = front ++ [name] := by
  by_cases current : directory.components = [.current]
  · refine ⟨[], ?_⟩
    rw [child_current current]
    exact split_slashless slashless
  · obtain ⟨front, -, segments, -⟩ := Path.join_piece slashless something
    exact ⟨front, by rw [child_joined current, segments]⟩

theorem child_file_name (proper : IsName name) (something : directory.text ≠ []) :
    (child directory name).fileName? = some name := by
  obtain ⟨front, segments⟩ := child_segments proper.slashless something
  exact Path.file_name_of_segments proper segments

/-- Whoever stays in the working directory by text has been there, and has written a dot. -/
theorem child_stays (slashless : slash ∉ name) (something : directory.text ≠ [])
    (stays : (child directory name).components = [.current]) :
    directory.components = [.current] ∧ name = [dot] := by
  obtain ⟨relative, here, still⟩ := components_current_iff.1 stays
  by_cases current : directory.components = [.current]
  · refine ⟨current, ?_⟩
    rw [child_current current, Path.startsHere, Path.segments, split_slashless slashless] at here
    simpa using here
  · exfalso
    obtain ⟨front, nonempty, segments, before, absolute⟩ := Path.join_piece slashless something
    rw [child_joined current] at relative here still
    have idle : (front.filter fun piece => Path.Moves piece) = [] := by
      have moving : ((front ++ [name]).filter fun piece => Path.Moves piece) = [] := by
        rw [← segments]
        exact still
      rw [List.filter_append] at moving
      exact (List.append_eq_nil_iff.1 moving).1
    have head : front.head? = some [dot] := by
      rw [Path.startsHere, segments] at here
      cases front with
      | nil => exact absurd rfl nonempty
      | cons first rest => simpa using here
    apply current
    rw [components_current_iff, ← absolute]
    refine ⟨relative, ?_, ?_⟩
    · rcases before with same | longer
      · rw [Path.startsHere, same, head]
        rfl
      · rw [Path.startsHere, longer, List.head?_append, head]
        rfl
    · have split : directory.steps =
          directory.segments.filter fun piece => Path.Moves piece := rfl
      rcases before with same | longer
      · rw [split, same, idle]
      · rw [split, longer, List.filter_append, idle]
        rfl

/-! ## In a tree -/

variable {tree : FileTree} {place next : Place} {entry : FileEntry}

/-- The path of a child leads where the name leads from the directory. -/
theorem locate_child (located : tree.locate directory = .ok (place, .directory))
    (slashless : slash ∉ name) (named : directory.components = [.current] → name ≠ [])
    (followed : tree.follow place name = .ok next) (present : tree.entry? next = some entry)
    (room : (child directory name).text.length ≤ FileTree.maxPathLength) :
    tree.locate (child directory name) = .ok (next, entry) := by
  obtain ⟨something, -, reached, held⟩ := locate_iff.1 located
  by_cases current : directory.components = [.current]
  · obtain ⟨relative, -, still⟩ := components_current_iff.1 current
    have here : place = tree.workingDirectory := by
      have stayed := (leads_of_locate located).followed
      rw [still, base, relative] at stayed
      exact (Except.ok.inj stayed).symm
    rw [child_current current] at room ⊢
    refine locate_iff.2 ⟨named current, room, ?_, present⟩
    rw [Path.segments, split_slashless slashless, base, Path.piece_relative slashless]
    rw [follow_cons_iff]
    exact ⟨next, by rw [← followed, here]; rfl, rfl⟩
  · obtain ⟨front, nonempty, segments, before, absolute⟩ := Path.join_piece slashless something
    have upTo : front.foldlM tree.follow (tree.base directory) = .ok place := by
      rcases before with same | longer
      · rwa [same] at reached
      · rw [longer, follow_append_iff] at reached
        obtain ⟨there, upTo, idle⟩ := reached
        obtain ⟨last, stepped, same⟩ := follow_cons_iff.1 idle
        cases same
        rw [follow_idle (fun moves => moves.1 rfl) (directory_of_follow stepped)] at stepped
        cases stepped
        exact upTo
    rw [child_joined current] at room ⊢
    refine locate_iff.2 ⟨?_, room, ?_, present⟩
    · intro nothing
      have alone : [[]] = front ++ [name] := by
        rw [← segments, Path.segments, nothing]
        rfl
      have lengths := congrArg List.length alone
      have longer := List.length_pos_iff.2 nonempty
      rw [List.length_append, List.length_singleton, List.length_singleton] at lengths
      omega
    · have begins : tree.base (directory.join ⟨name⟩) = tree.base directory := by
        rw [base, base, absolute]
      rw [segments, begins, follow_append_iff]
      exact ⟨place, upTo, follow_cons_iff.2 ⟨next, followed, rfl⟩⟩

theorem insert_name_perm (name : Bytes) (names : List Bytes) :
    (insertName name names).Perm (name :: names) := by
  induction names with
  | nil => exact .refl _
  | cons first rest ih =>
      rw [insertName]
      split
      · exact .refl _
      · exact (ih.cons first).trans (.swap name first rest)

theorem insert_name_ascending {name : Bytes} {names : List Bytes}
    (ascending : names.Pairwise (· ≤ ·)) : (insertName name names).Pairwise (· ≤ ·) := by
  induction names with
  | nil => exact List.pairwise_singleton _ _
  | cons first rest ih =>
      obtain ⟨least, later⟩ := List.pairwise_cons.1 ascending
      rw [insertName]
      split
      · rename_i before
        refine List.pairwise_cons.2 ⟨fun other member => ?_, ascending⟩
        rcases List.mem_cons.1 member with rfl | behind
        · exact before
        · exact List.le_trans before (least other behind)
      · rename_i behind
        refine List.pairwise_cons.2 ⟨fun other member => ?_, ih later⟩
        rcases List.mem_cons.1 ((insert_name_perm name rest).mem_iff.1 member) with rfl | among
        · exact (List.le_total first other).resolve_right behind
        · exact least other among

theorem sorted_perm (names : List Bytes) : (sorted names).Perm names := by
  unfold sorted
  induction names with
  | nil => exact .refl _
  | cons first rest ih => exact (insert_name_perm first _).trans (ih.cons first)

theorem sorted_ascending (names : List Bytes) : (sorted names).Pairwise (· ≤ ·) := by
  unfold sorted
  induction names with
  | nil => exact .nil
  | cons first rest ih => exact insert_name_ascending ih

/-- The entries of a directory are found in the order of their names. -/
theorem children_in_order (located : tree.locate directory = .ok (place, .directory))
    (readable : place ∉ tree.unreadable) :
    ∃ names : List Bytes, names.Pairwise (· ≤ ·) ∧ names.Perm (tree.names place) ∧
      children tree directory = .ok (names.map (child directory)) := by
  refine ⟨sorted (tree.names place), sorted_ascending _, sorted_perm _, ?_⟩
  rw [children, FileTree.list_of_locate located readable]
  rfl

theorem child_of_directory (located : tree.locate directory = .ok (place, .directory))
    (readable : place ∉ tree.unreadable) (held : tree.entry? (name :: place) = some entry) :
    ∃ entries, children tree directory = .ok entries ∧ child directory name ∈ entries := by
  have listed : (name :: place, entry) ∈ tree.entries := by
    obtain ⟨before, after, split, -⟩ := List.lookup_eq_some_iff.1 held
    rw [split]
    exact List.mem_append_right _ List.mem_cons_self
  have named : name ∈ tree.names place := by
    refine List.mem_filterMap.2 ⟨(name :: place, entry), listed, ?_⟩
    exact if_pos rfl
  obtain ⟨names, -, same, children⟩ := children_in_order located readable
  exact ⟨_, children, List.mem_map_of_mem (same.mem_iff.2 named)⟩

end Glob

end Checkup
