import Checkup.Proofs.FileTree
import Checkup.Settings.Discovery
import Mathlib.Data.List.Infix

/-!
# The root of the settings

The search for a root goes back along the text of the start path, so it visits the places that the
path passes. These are the directories above the one that the path names only as long as the path
has no `..`, and they end where the path begins.
-/

namespace Checkup.Settings

open FileTree (LeadsTo stepFrom)

variable {tree : FileTree}

/-! ## Marked places -/

def markNames : List Bytes := (documentNames.map (·.1) ++ [repositoryName]).map Bytes.ofString

/-- A directory that holds a document or a repository. -/
def marks (tree : FileTree) (directory : Place) : Bool :=
  markNames.any fun name => (tree.entry? (name :: directory)).isSome

def longestMark : Nat := 13

theorem mark_name_plain {name : Bytes} (member : name ∈ markNames) :
    Path.slash ∉ name ∧ Path.Moves name ∧ name ≠ [Path.dot, Path.dot] ∧
      name.length ≤ longestMark := by
  revert name
  decide +kernel

/-- Every name that marks a directory can be joined to the path within the limit. -/
def Room (path : Path) : Prop := path.text.length + longestMark + 1 ≤ FileTree.maxPathLength

theorem is_marked_names (tree : FileTree) (directory : Path) :
    isMarked tree directory = markNames.any fun name => tree.holds (directory.join ⟨name⟩) := by
  rw [isMarked, markNames, List.any_map]
  rfl

theorem is_marked_at {path : Path} {place : Place} (leads : tree.LeadsTo path place)
    (room : Room path) : isMarked tree path = marks tree place := by
  have each : ∀ name ∈ markNames,
      tree.holds (path.join ⟨name⟩) = (tree.entry? (name :: place)).isSome := by
    intro name member
    obtain ⟨slashless, moves, notParent, short⟩ := mark_name_plain member
    have length := Path.join_length path ⟨name⟩
    have limit : longestMark ≤ FileTree.maxNameLength := by decide
    unfold Room at room
    dsimp only at length
    exact leads.holds_join slashless moves notParent (by omega) (by omega)
  rw [is_marked_names, marks, Bool.eq_iff_iff, List.any_eq_true, List.any_eq_true]
  apply exists_congr
  intro name
  apply and_congr_right
  intro member
  rw [each name member]

/-! ## The way back -/

/-- The places that a path passes, from its end back to where it begins. -/
def wayBack (tree : FileTree) (path : Path) : List Place := (tree.passed path).reverse

theorem way_back_still {path : Path} (still : path.steps = []) :
    wayBack tree path = [tree.base path] := by
  rw [wayBack, FileTree.passed, still]
  rfl

theorem way_back_moved {path : Path} {front : List Bytes} {last : Bytes}
    (moved : path.steps = front ++ [last]) :
    wayBack tree path = path.steps.foldl stepFrom (tree.base path) ::
      (front.scanl stepFrom (tree.base path)).reverse := by
  rw [wayBack, FileTree.passed, moved, List.scanl_append, List.reverse_append, List.foldl_append]
  rfl

theorem way_back_head {path : Path} {place : Place} (leads : tree.LeadsTo path place) :
    ∃ rest, wayBack tree path = place :: rest := by
  rw [leads.destination]
  rcases List.eq_nil_or_concat path.steps with still | ⟨front, last, moved⟩
  · rw [way_back_still still, still]
    exact ⟨[], rfl⟩
  · rw [List.concat_eq_append] at moved
    rw [way_back_moved moved]
    exact ⟨_, rfl⟩

/-- The way back from a path goes on along the way back from its parent. -/
theorem way_back_parent {path parent : Path} {place : Place} (leads : tree.LeadsTo path place)
    (found : path.parent? = some parent) :
    wayBack tree path = wayBack tree parent ∨ wayBack tree path = place :: wayBack tree parent := by
  obtain ⟨taken, absolute⟩ := Path.parent_takes_back found
  have begins : tree.base parent = tree.base path := by
    rw [FileTree.base, FileTree.base, absolute]
  rcases List.eq_nil_or_concat path.steps with still | ⟨front, last, moved⟩
  · left
    have parentStill : parent.steps = [] := by rw [taken, still]; rfl
    rw [way_back_still still, way_back_still parentStill, begins]
  · right
    rw [List.concat_eq_append] at moved
    rw [way_back_moved moved, ← leads.destination, wayBack, FileTree.passed, taken, begins, moved,
      List.dropLast_concat]

theorem room_of_parent {path parent : Path} (room : Room path)
    (found : path.parent? = some parent) : Room parent := by
  have shorter := Path.parent?_length found
  unfold Room at *
  omega

theorem nearest_unmarked {path : Path} (unmarked : ¬ isMarked tree path = true) :
    nearestMarked? tree path = path.parent?.bind (nearestMarked? tree) := by
  rw [nearestMarked?, if_neg unmarked]
  split
  · rename_i found
    rw [found]
    rfl
  · rename_i missing
    rw [missing]
    rfl

/-- The search goes along the way back: it ends at a path that leads to the first marked place
there, and finds nothing if none is marked. -/
theorem nearest_on_way_back {path : Path} {place : Place} (leads : tree.LeadsTo path place)
    (room : Room path) :
    Option.Rel tree.LeadsTo (nearestMarked? tree path)
      ((wayBack tree path).find? (marks tree)) := by
  induction path using nearestMarked?.induct tree generalizing place with
  | case1 path marked =>
      obtain ⟨rest, way⟩ := way_back_head leads
      rw [nearestMarked?, if_pos marked]
      rw [is_marked_at leads room] at marked
      rw [way, List.find?_cons_of_pos marked]
      exact .some leads
  | case2 path unmarked parent found ih =>
      obtain ⟨above, leadsAbove⟩ := leads.parent found
      have behind := ih leadsAbove (room_of_parent room found)
      rw [nearest_unmarked unmarked, found, Option.bind_some]
      rw [is_marked_at leads room] at unmarked
      rcases way_back_parent leads found with same | onward
      · rw [same]
        exact behind
      · rw [onward, List.find?_cons_of_neg unmarked]
        exact behind
  | case3 path unmarked missing =>
      have still := Path.steps_of_no_parent missing
      have here := leads.destination
      rw [still, List.foldl_nil] at here
      rw [nearest_unmarked unmarked, missing, Option.bind_none]
      rw [is_marked_at leads room, here] at unmarked
      rw [way_back_still still, List.find?_cons_of_neg unmarked]
      exact .none

/-! ## The closest marked directory -/

/-- The closest marked directory among a directory and those above it. -/
def closestMarked? (tree : FileTree) (directory : Place) : Option Place :=
  directory.tails.find? (marks tree)

/-- The root leads to a place, or is the start itself where there is no place to lead to. -/
def RootsAt (tree : FileTree) (start : Path) : Option Place → Prop
  | some place => tree.LeadsTo (root tree start) place
  | none => root tree start = start

theorem roots_on_way_back {start : Path} {directory : Place}
    (leads : tree.LeadsTo start directory) (room : Room start) :
    RootsAt tree start ((wayBack tree start).find? (marks tree)) := by
  have searched := nearest_on_way_back leads room
  revert searched
  generalize (wayBack tree start).find? (marks tree) = found
  intro searched
  unfold RootsAt root
  cases nearest : nearestMarked? tree start with
  | none =>
      rw [nearest] at searched
      cases searched
      rfl
  | some path =>
      rw [nearest] at searched
      cases searched with
      | some leadsThere => exact leadsThere

/-- A root cannot lead to two marked places, nor to a marked place and to an unmarked start. -/
theorem roots_at_unique {start : Path} {directory : Place} (leads : tree.LeadsTo start directory)
    {others more : List Place}
    (roots : RootsAt tree start ((directory :: others).find? (marks tree)))
    (rootsToo : RootsAt tree start ((directory :: more).find? (marks tree))) :
    (directory :: others).find? (marks tree) = (directory :: more).find? (marks tree) := by
  by_cases here : marks tree directory = true
  · rw [List.find?_cons_of_pos here, List.find?_cons_of_pos here]
  rw [List.find?_cons_of_neg here] at roots rootsToo
  rw [List.find?_cons_of_neg here, List.find?_cons_of_neg here]
  have elsewhere {place : Place} (marked : marks tree place = true)
      (same : root tree start = start) (leadsThere : tree.LeadsTo (root tree start) place) :
      False := by
    rw [same] at leadsThere
    rw [leadsThere.unique leads] at marked
    exact here marked
  cases found : others.find? (marks tree) with
  | none =>
      rw [found] at roots
      cases sought : more.find? (marks tree) with
      | none => rfl
      | some place =>
          rw [sought] at rootsToo
          exact (elsewhere (List.find?_some sought) roots rootsToo).elim
  | some place =>
      rw [found] at roots
      cases sought : more.find? (marks tree) with
      | none =>
          rw [sought] at rootsToo
          exact (elsewhere (List.find?_some found) rootsToo roots).elim
      | some other =>
          rw [sought] at rootsToo
          rw [roots.unique rootsToo]

theorem roots_closest_iff {start : Path} {directory : Place}
    (leads : tree.LeadsTo start directory) (room : Room start) :
    RootsAt tree start (closestMarked? tree directory) ↔
      (wayBack tree start).find? (marks tree) = closestMarked? tree directory := by
  have onWay := roots_on_way_back leads room
  obtain ⟨rest, way⟩ := way_back_head leads
  obtain ⟨above, tails⟩ : ∃ above, directory.tails = directory :: above := by
    cases directory with
    | nil => exact ⟨[], rfl⟩
    | cons name below => exact ⟨below.tails, List.tails_cons name below⟩
  constructor
  · intro closest
    rw [way] at onWay ⊢
    rw [closestMarked?, tails] at closest ⊢
    exact roots_at_unique leads onWay closest
  · intro same
    rw [← same]
    exact onWay

/-! ## Paths without `..` -/

theorem step_plain {name : Bytes} (plain : name ≠ [Path.dot, Path.dot]) (place : Place) :
    stepFrom place name = name :: place := if_neg plain

/-- The way back along names goes through the directories above, up to where the path begins. -/
theorem tails_plain {path : Path} {place : Place} (leads : tree.LeadsTo path place)
    (plain : [Path.dot, Path.dot] ∉ path.steps) :
    place.tails = wayBack tree path ++ (tree.base path).tails.tail := by
  rw [leads.destination, wayBack, FileTree.passed]
  revert plain
  generalize path.steps = steps
  intro plain
  induction steps using List.reverseRecOn with
  | nil => cases tree.base path <;> simp
  | append_singleton front last ih =>
      rw [List.mem_append, not_or, List.mem_singleton] at plain
      have down := step_plain (Ne.symm plain.2) (front.foldl stepFrom (tree.base path))
      rw [List.foldl_append, List.foldl_cons, List.foldl_nil, down, List.tails_cons,
        ih plain.1, List.scanl_append, List.reverse_append, ← down]
      rfl

/-- Along names the closest marked directory is found unless it is above the place where the path
begins. -/
theorem way_back_closest_iff {path : Path} {place : Place} (leads : tree.LeadsTo path place)
    (plain : [Path.dot, Path.dot] ∉ path.steps) :
    (wayBack tree path).find? (marks tree) = closestMarked? tree place ↔
      (∃ passed ∈ wayBack tree path, marks tree passed = true) ∨
        ∀ above ∈ (tree.base path).tails.tail, marks tree above = false := by
  rw [closestMarked?, tails_plain leads plain, List.find?_append]
  cases found : (wayBack tree path).find? (marks tree) with
  | some nearest =>
      simp only [Option.some_or, true_iff]
      exact .inl ⟨nearest, List.mem_of_find?_eq_some found, List.find?_some found⟩
  | none =>
      have unmarked := List.find?_eq_none.1 found
      rw [Option.none_or, eq_comm, List.find?_eq_none]
      constructor
      · intro above
        exact .inr fun directory member => by simpa using above directory member
      · rintro (⟨passed, member, marked⟩ | above)
        · exact absurd marked (unmarked passed member)
        · intro directory member
          simpa using above directory member

/-! ## The root that is chosen -/

/-- Where the search starts. -/
def startPath (start : Option Path) : Path := start.getD ⟨[Path.dot]⟩

theorem discovered_root {start : Option Path} {overrides : Overrides} {found : Discovered}
    (discovered : discover tree start overrides = .ok found) :
    found.root = root tree (startPath start) := by
  unfold discover at discovered
  dsimp only [bind, Except.bind] at discovered
  split at discovered
  · cases discovered
  · cases discovered
    rfl

theorem root_of_marked {start : Path} (marked : isMarked tree start = true) :
    root tree start = start := by
  rw [root, nearestMarked?, if_pos marked]
  rfl

/-- Without a document there are only defaults and overrides. -/
theorem discovered_undocumented {start : Option Path} (overrides : Overrides)
    (marked : isMarked tree (startPath start) = true)
    (undocumented : load tree (startPath start) = .ok none) :
    discover tree start overrides =
      .ok ⟨default.override overrides, startPath start, false⟩ := by
  have found : root tree (start.getD ⟨[Path.dot]⟩) = startPath start := root_of_marked marked
  unfold discover
  dsimp only
  rw [found, undocumented]
  rfl

/-- The root is the first marked directory on the way back from the end of the start path to where
the path begins. So it is the closest marked directory exactly if that way comes to the closest one
before any other; and a path without `..` misses the closest one exactly if all marked directories
are above the place where the path begins. -/
theorem closest_root_found_iff (tree : FileTree) (start : Option Path) (directory : Place)
    (named : tree.locate (startPath start) = .ok (directory, .directory))
    (room : Room (startPath start)) :
    let path := startPath start
    (∀ overrides found, discover tree start overrides = .ok found →
        found.root = root tree path) ∧
      RootsAt tree path ((wayBack tree path).find? (marks tree)) ∧
      (RootsAt tree path (closestMarked? tree directory) ↔
        (wayBack tree path).find? (marks tree) = closestMarked? tree directory) ∧
      ([Path.dot, Path.dot] ∉ path.steps →
        (RootsAt tree path (closestMarked? tree directory) ↔
          (∃ passed ∈ wayBack tree path, marks tree passed = true) ∨
            ∀ above ∈ (tree.base path).tails.tail, marks tree above = false)) := by
  intro path
  have leads : tree.LeadsTo path directory := FileTree.leads_of_locate named
  have closest := roots_closest_iff leads room
  refine ⟨?_, roots_on_way_back leads room, closest, ?_⟩
  · intro overrides found discovered
    exact discovered_root discovered
  · intro plain
    rw [closest]
    exact way_back_closest_iff leads plain

def placeOf (names : List String) : Place := (names.map Bytes.ofString).reverse

/-- A project with a document in its directory, entered at a directory below. -/
def below : FileTree :=
  { FileTree.withFile {} (placeOf ["w", "phpcheck.toml"]) [] false with
    workingDirectory := placeOf ["w", "b"] }.withDirectories (placeOf ["w", "b"])

/-- From `.` the document in the directory above is not found. -/
theorem document_above_missed :
    below.locate (startPath none) = .ok (placeOf ["w", "b"], .directory) ∧
      Room (startPath none) ∧
      closestMarked? below (placeOf ["w", "b"]) = some (placeOf ["w"]) ∧
      ¬ RootsAt below (startPath none) (closestMarked? below (placeOf ["w", "b"])) := by
  have named : below.locate (startPath none) = .ok (placeOf ["w", "b"], .directory) := by
    rfl
  have room : Room (startPath none) := by
    unfold Room
    decide +kernel
  have closest : closestMarked? below (placeOf ["w", "b"]) = some (placeOf ["w"]) := by
    decide +kernel
  refine ⟨named, room, closest, ?_⟩
  rw [(closest_root_found_iff below none _ named room).2.2.1]
  decide +kernel

/-- A directory with a document, beside the directory that is started from. -/
def beside : FileTree :=
  { FileTree.withFile {} (placeOf ["w", "a", "phpcheck.toml"]) [] false with
    workingDirectory := placeOf ["w"] }

/-- The path `a/..` names the working directory, and no document is there or above; but the one in
`a` is taken. -/
theorem document_beside_taken :
    beside.locate (.ofString "a/..") = .ok (placeOf ["w"], .directory) ∧
      closestMarked? beside (placeOf ["w"]) = none ∧
      beside.LeadsTo (root beside (.ofString "a/..")) (placeOf ["w", "a"]) ∧
      ¬ RootsAt beside (.ofString "a/..") (closestMarked? beside (placeOf ["w"])) := by
  have named : beside.locate (.ofString "a/..") = .ok (placeOf ["w"], .directory) := by
    rfl
  have leads : beside.LeadsTo (.ofString "a/..") (placeOf ["w"]) := FileTree.leads_of_locate named
  have room : Room (.ofString "a/..") := by
    unfold Room
    decide +kernel
  have first : (wayBack beside (.ofString "a/..")).find? (marks beside) =
      some (placeOf ["w", "a"]) := by
    decide +kernel
  have unmarked : closestMarked? beside (placeOf ["w"]) = none := by
    decide +kernel
  refine ⟨named, unmarked, ?_, ?_⟩
  · have roots := roots_on_way_back leads room
    rw [first] at roots
    exact roots
  · rw [roots_closest_iff leads room, first, unmarked]
    exact Option.some_ne_none _

end Checkup.Settings
