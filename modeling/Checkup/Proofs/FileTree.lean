import Checkup.FileTree
import Checkup.Proofs.Path.Steps

/-!
# Following paths

A path that leads to a directory passes directories only, so where it is at each of its steps can
be told from the steps alone. Idle segments stay where they are, and a joined name looks into the
directory.
-/

namespace Checkup.FileTree

open Checkup.Path (Moves)

variable {tree : FileTree}

/-- Where a path begins. -/
def base (tree : FileTree) (path : Path) : Place :=
  if path.isAbsolute then [] else tree.workingDirectory

/-- One step from a place: `..` leads above it, a name below it. -/
def stepFrom (place : Place) (segment : Bytes) : Place :=
  if segment = [Path.dot, Path.dot] then place.tail else segment :: place

/-- The places that a path passes, from where it begins to where it ends. -/
def passed (tree : FileTree) (path : Path) : List Place :=
  path.steps.scanl stepFrom (tree.base path)

/-- The path leads to a directory, through directories only. The empty path leads to where it
begins. -/
structure LeadsTo (tree : FileTree) (path : Path) (place : Place) : Prop where
  followed : path.steps.foldlM tree.follow (tree.base path) = .ok place
  directory : tree.entry? place = some .directory

/-! ## One segment -/

theorem directory_of_follow {place next : Place} {segment : Bytes}
    (followed : tree.follow place segment = .ok next) :
    tree.entry? place = some .directory := by
  unfold follow at followed
  split at followed
  · cases followed
  · cases followed
  · assumption

theorem follow_idle {place : Place} {segment : Bytes} (idle : ¬ Moves segment)
    (directory : tree.entry? place = some .directory) :
    tree.follow place segment = .ok place := by
  have stays : segment = [] ∨ segment = [Path.dot] := by
    by_contra other
    exact idle ⟨fun same => other (.inl same), fun same => other (.inr same)⟩
  rw [follow, directory]
  exact if_pos stays

theorem follow_step {place next : Place} {segment : Bytes} (moves : Moves segment)
    (followed : tree.follow place segment = .ok next) : next = stepFrom place segment := by
  have moving : ¬ (segment = [] ∨ segment = [Path.dot]) := by
    rintro (same | same)
    · exact moves.1 same
    · exact moves.2 same
  rw [follow, directory_of_follow followed] at followed
  dsimp only at followed
  rw [if_neg moving] at followed
  rw [stepFrom]
  split at followed
  · cases followed
    rw [if_pos ‹_›]
  split at followed
  · cases followed
  · cases followed
    rw [if_neg ‹_›]

theorem follow_name {place : Place} {name : Bytes} (moves : Moves name)
    (notParent : name ≠ [Path.dot, Path.dot]) (short : name.length ≤ maxNameLength)
    (directory : tree.entry? place = some .directory) :
    tree.follow place name = .ok (name :: place) := by
  rw [follow, directory]
  dsimp only
  rw [if_neg (fun same => same.elim moves.1 moves.2), if_neg notParent,
    if_neg (Nat.not_lt.2 short)]

/-! ## Many segments -/

theorem bind_ok_iff {Error Value Next : Type} {first : Except Error Value}
    {next : Value → Except Error Next} {result : Next} :
    first >>= next = .ok result ↔ ∃ value, first = .ok value ∧ next value = .ok result := by
  cases first with
  | error =>
      constructor
      · intro failed
        cases failed
      · rintro ⟨_, failed, _⟩
        cases failed
  | ok value =>
      constructor
      · intro followed
        exact ⟨value, rfl, followed⟩
      · rintro ⟨_, same, followed⟩
        cases same
        exact followed

theorem follow_cons_iff {segment : Bytes} {rest : List Bytes} {start place : Place} :
    (segment :: rest).foldlM tree.follow start = .ok place ↔
      ∃ next, tree.follow start segment = .ok next ∧
        rest.foldlM tree.follow next = .ok place := by
  rw [List.foldlM_cons, bind_ok_iff]

theorem follow_append_iff {front rest : List Bytes} {start place : Place} :
    (front ++ rest).foldlM tree.follow start = .ok place ↔
      ∃ next, front.foldlM tree.follow start = .ok next ∧
        rest.foldlM tree.follow next = .ok place := by
  rw [List.foldlM_append, bind_ok_iff]

/-- A way to a directory begins in a directory. -/
theorem directory_of_fold {segments : List Bytes} {start place : Place}
    (followed : segments.foldlM tree.follow start = .ok place)
    (directory : tree.entry? place = some .directory) :
    tree.entry? start = some .directory := by
  cases segments with
  | nil =>
      cases followed
      exact directory
  | cons segment rest =>
      obtain ⟨next, first, -⟩ := follow_cons_iff.1 followed
      exact directory_of_follow first

/-- On the way to a directory only the segments that move count. -/
theorem follow_moving_segments {place : Place} (directory : tree.entry? place = some .directory)
    (segments : List Bytes) (start : Place) :
    (segments.filter fun piece => Moves piece).foldlM tree.follow start = .ok place ↔
      segments.foldlM tree.follow start = .ok place := by
  induction segments generalizing start with
  | nil => exact Iff.rfl
  | cons segment rest ih =>
      by_cases moves : Moves segment
      · rw [List.filter_cons_of_pos (by simpa using moves), follow_cons_iff, follow_cons_iff]
        exact exists_congr fun next => and_congr_right fun _ => ih next
      · rw [List.filter_cons_of_neg (by simpa using moves), ih, follow_cons_iff]
        constructor
        · intro followed
          exact ⟨start, follow_idle moves (directory_of_fold followed directory), followed⟩
        · rintro ⟨next, first, followed⟩
          rw [follow_idle moves (directory_of_follow first)] at first
          cases first
          exact followed

theorem fold_steps {steps : List Bytes} (moving : ∀ step ∈ steps, Moves step)
    {start place : Place} (followed : steps.foldlM tree.follow start = .ok place) :
    place = steps.foldl stepFrom start := by
  induction steps generalizing start with
  | nil =>
      cases followed
      rfl
  | cons step rest ih =>
      obtain ⟨next, first, followed⟩ := follow_cons_iff.1 followed
      rw [List.foldl_cons, ← follow_step (moving step List.mem_cons_self) first]
      exact ih (fun later member => moving later (List.mem_cons_of_mem _ member)) followed

/-! ## Ways -/

/-- What it takes to find something under a path. -/
theorem locate_iff {path : Path} {place : Place} {entry : FileEntry} :
    tree.locate path = .ok (place, entry) ↔
      path.text ≠ [] ∧ path.text.length ≤ maxPathLength ∧
        path.segments.foldlM tree.follow (tree.base path) = .ok place ∧
          tree.entry? place = some entry := by
  unfold locate base
  simp only [bind, Except.bind, pure, Except.pure, throw, throwThe, MonadExceptOf.throw]
  split
  · rename_i nothing
    constructor
    · intro failed
      cases failed
    · intro ⟨something, _⟩
      exact absurd (List.isEmpty_iff.1 nothing) something
  rename_i something
  have nonempty : path.text ≠ [] := fun nothing => something (List.isEmpty_iff.2 nothing)
  split
  · constructor
    · intro failed
      cases failed
    · intro ⟨_, room, _⟩
      omega
  rename_i room
  cases path.segments.foldlM tree.follow
      (if path.isAbsolute = true then [] else tree.workingDirectory) with
  | error =>
      constructor
      · intro failed
        cases failed
      · intro ⟨_, _, failed, _⟩
        cases failed
  | ok reached =>
      dsimp only
      constructor
      · intro found
        cases present : tree.entry? reached with
        | none => rw [present] at found; cases found
        | some held =>
            rw [present] at found
            cases found
            exact ⟨nonempty, by omega, rfl, present⟩
      · rintro ⟨_, _, same, present⟩
        cases same
        rw [present]

theorem leads_of_locate {path : Path} {place : Place}
    (named : tree.locate path = .ok (place, .directory)) : tree.LeadsTo path place := by
  obtain ⟨-, -, followed, directory⟩ := locate_iff.1 named
  exact ⟨(follow_moving_segments directory _ _).2 followed, directory⟩

theorem holds_iff {path : Path} :
    tree.holds path = true ↔ ∃ place entry, tree.locate path = .ok (place, entry) := by
  unfold holds
  cases tree.locate path with
  | error => simp [Except.isOk, Except.toBool]
  | ok found => simpa [Except.isOk, Except.toBool] using ⟨found.1, found.2, rfl⟩

theorem read_of_locate {path : Path} {place : Place} {content : Bytes} {executable : Bool}
    (located : tree.locate path = .ok (place, .file content executable))
    (readable : place ∉ tree.unreadable) : tree.read path = .ok content := by
  simp only [read, located, bind, Except.bind, if_neg readable]
  rfl

theorem list_of_locate {path : Path} {place : Place}
    (located : tree.locate path = .ok (place, .directory)) (readable : place ∉ tree.unreadable) :
    tree.list path = .ok (tree.names place) := by
  simp only [list, located, bind, Except.bind, if_neg readable]
  rfl

namespace LeadsTo

variable {path : Path} {place : Place} (leads : tree.LeadsTo path place)

include leads

/-- The last place that is passed. -/
theorem destination : place = path.steps.foldl stepFrom (tree.base path) := by
  apply fold_steps _ leads.followed
  intro step member
  simpa using (List.mem_filter.1 member).2

theorem unique {other : Place} (leadsOther : tree.LeadsTo path other) : place = other :=
  leads.destination.trans leadsOther.destination.symm

/-- The parent leads to the directory before the last step. -/
theorem parent {parent : Path} (found : path.parent? = some parent) :
    ∃ above, tree.LeadsTo parent above := by
  obtain ⟨taken, absolute⟩ := Path.parent_takes_back found
  have begins : tree.base parent = tree.base path := by rw [base, base, absolute]
  rcases List.eq_nil_or_concat path.steps with still | ⟨front, last, split⟩
  · refine ⟨place, ?_, leads.directory⟩
    rw [taken, still, begins]
    have followed := leads.followed
    rw [still] at followed
    exact followed
  · have followed := leads.followed
    rw [split, List.concat_eq_append, follow_append_iff] at followed
    obtain ⟨above, front, behind⟩ := followed
    refine ⟨above, ?_, directory_of_fold behind leads.directory⟩
    rw [taken, split, List.concat_eq_append, List.dropLast_concat, begins]
    exact front

/-- Looking for a name in a directory by a joined path. -/
theorem holds_join {name : Bytes} (slashless : Path.slash ∉ name) (moves : Moves name)
    (notParent : name ≠ [Path.dot, Path.dot]) (short : name.length ≤ maxNameLength)
    (room : (path.join ⟨name⟩).text.length ≤ maxPathLength) :
    tree.holds (path.join ⟨name⟩) = (tree.entry? (name :: place)).isSome := by
  obtain ⟨front, segments, steps⟩ := Path.join_name_segments slashless moves path
  have begins : tree.base (path.join ⟨name⟩) = tree.base path := by
    rw [base, base, Path.join_name_absolute slashless moves]
  have reached : front.foldlM tree.follow (tree.base path) = .ok place := by
    rw [← follow_moving_segments leads.directory, steps]
    exact leads.followed
  have stepped : tree.follow place name = .ok (name :: place) :=
    follow_name moves notParent short leads.directory
  have nonempty : (path.join ⟨name⟩).text ≠ [] := by
    intro nothing
    rw [Path.segments, nothing] at segments
    have last := congrArg List.getLast? segments
    rw [List.getLast?_concat] at last
    exact moves.1 (Option.some.inj last).symm
  have followed : (path.join ⟨name⟩).segments.foldlM tree.follow
      (tree.base (path.join ⟨name⟩)) = .ok (name :: place) := by
    rw [segments, begins, follow_append_iff]
    refine ⟨place, reached, ?_⟩
    rw [follow_cons_iff]
    exact ⟨name :: place, stepped, rfl⟩
  rw [Bool.eq_iff_iff, holds_iff, Option.isSome_iff_exists]
  constructor
  · rintro ⟨there, entry, located⟩
    obtain ⟨-, -, same, present⟩ := locate_iff.1 located
    rw [followed] at same
    cases same
    exact ⟨entry, present⟩
  · rintro ⟨entry, present⟩
    exact ⟨name :: place, entry, locate_iff.2 ⟨nonempty, room, followed, present⟩⟩

end LeadsTo

end Checkup.FileTree
