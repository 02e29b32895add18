import Checkup.Proofs.FileTree

/-!
# Where a path leads

By its text alone a path leads to the root or to some directory above the one it begins in, and
from there down by names. Its normal form spells this out, so it leads to the same place.
-/

namespace Checkup

open FileTree (stepFrom)

/-- Where a path leads from a directory, by its text alone. -/
def Path.destination (path : Path) (base : Place) : Place :=
  path.steps.foldl stepFrom (if path.isAbsolute then [] else base)

/-- Where the names of a way begin. -/
inductive Origin where
  | root
  | above (levels : Nat)
  deriving DecidableEq, Repr

namespace Origin

def up : Origin → Origin
  | root => root
  | above levels => above (levels + 1)

def place (base : Place) : Origin → Place
  | root => []
  | above levels => base.drop levels

def components : Origin → List Path.Component
  | root => [.root]
  | above levels => List.replicate levels .parent

def steps : Origin → List Bytes
  | root => []
  | above levels => List.replicate levels [Path.dot, Path.dot]

theorem place_up (origin : Origin) (base : Place) :
    origin.up.place base = (origin.place base).tail := by
  cases origin with
  | root => rfl
  | above levels => exact List.tail_drop.symm

end Origin

/-- The names that lead down from an origin, the innermost first. -/
structure Way where
  origin : Origin
  names : List Bytes
  deriving DecidableEq, Repr

namespace Way

def step (way : Way) (segment : Bytes) : Way :=
  if segment = [Path.dot, Path.dot] then
    match way.names with
    | _ :: above => ⟨way.origin, above⟩
    | [] => ⟨way.origin.up, []⟩
  else ⟨way.origin, segment :: way.names⟩

def place (way : Way) (base : Place) : Place := way.names ++ way.origin.place base

def steps (way : Way) : List Bytes := way.origin.steps ++ way.names.reverse

/-- The components of a way, the last one first. -/
def stack (way : Way) : List Path.Component :=
  way.names.map .name ++ way.origin.components

theorem step_up {segment : Bytes} (climbs : segment = [Path.dot, Path.dot]) (origin : Origin)
    (names : List Bytes) :
    step ⟨origin, names⟩ segment =
      match names with
      | _ :: above => ⟨origin, above⟩
      | [] => ⟨origin.up, []⟩ :=
  if_pos climbs

theorem step_down {segment : Bytes} (descends : segment ≠ [Path.dot, Path.dot]) (way : Way) :
    way.step segment = ⟨way.origin, segment :: way.names⟩ :=
  if_neg descends

theorem place_step (way : Way) (segment : Bytes) (base : Place) :
    (way.step segment).place base = stepFrom (way.place base) segment := by
  obtain ⟨origin, names⟩ := way
  by_cases climbs : segment = [Path.dot, Path.dot]
  · rw [step_up climbs, stepFrom, if_pos climbs]
    cases names with
    | nil => exact origin.place_up base
    | cons => rfl
  · rw [step_down climbs, stepFrom, if_neg climbs]
    rfl

theorem place_steps (segments : List Bytes) (way : Way) (base : Place) :
    (segments.foldl step way).place base = segments.foldl stepFrom (way.place base) := by
  induction segments generalizing way with
  | nil => rfl
  | cons segment rest ih =>
      rw [List.foldl_cons, List.foldl_cons, ih, place_step]

end Way

namespace Path

/-- A segment that leads down. -/
structure IsName (segment : Bytes) : Prop where
  slashless : slash ∉ segment
  moves : Moves segment
  descends : segment ≠ [dot, dot]

def origin (path : Path) : Origin := if path.isAbsolute then .root else .above 0

def way (path : Path) : Way := path.steps.foldl Way.step ⟨path.origin, []⟩

theorem destination_way (path : Path) (base : Place) :
    path.destination base = path.way.place base := by
  rw [way, Way.place_steps, destination, Way.place, origin]
  split
  · rfl
  · rfl

/-! ## Segments -/

theorem slashless_of_split {text segment : Bytes} (member : segment ∈ text.splitOn slash) :
    slash ∉ segment :=
  Text.piece_whole member

theorem step_slashless {path : Path} {segment : Bytes} (member : segment ∈ path.steps) :
    slash ∉ segment :=
  slashless_of_split (List.mem_filter.1 member).1

theorem step_moves {path : Path} {segment : Bytes} (member : segment ∈ path.steps) :
    Moves segment := by
  simpa using (List.mem_filter.1 member).2

theorem way_names_of_steps {segments : List Bytes} {start : Way} {name : Bytes}
    (member : name ∈ (segments.foldl Way.step start).names) :
    name ∈ start.names ∨ name ∈ segments ∧ name ≠ [dot, dot] := by
  induction segments generalizing start with
  | nil => exact .inl member
  | cons segment rest ih =>
      rcases ih member with before | ⟨later, descends⟩
      · by_cases climbs : segment = [dot, dot]
        · rw [Way.step_up climbs] at before
          left
          cases names : start.names with
          | nil => rw [names] at before; cases before
          | cons first above =>
              rw [names] at before
              exact List.mem_cons_of_mem _ before
        · rw [Way.step_down climbs] at before
          rcases List.mem_cons.1 before with own | older
          · right
            rw [own]
            exact ⟨List.mem_cons_self, climbs⟩
          · exact .inl older
      · exact .inr ⟨List.mem_cons_of_mem _ later, descends⟩

theorem way_name {path : Path} {name : Bytes} (member : name ∈ path.way.names) : IsName name := by
  rcases way_names_of_steps member with nothing | ⟨inPath, descends⟩
  · cases nothing
  · exact ⟨step_slashless inPath, step_moves inPath, descends⟩

/-! ## Components -/

/-- The component of a segment that moves. -/
def componentOfStep (segment : Bytes) : Component :=
  if segment = [dot, dot] then .parent else .name segment

theorem components_of_segments (segments : List Bytes) :
    segments.filterMap componentOfSegment? =
      (segments.filter fun segment => Moves segment).map componentOfStep := by
  induction segments with
  | nil => rfl
  | cons segment rest ih =>
      by_cases moves : Moves segment
      · have own : componentOfSegment? segment = some (componentOfStep segment) := by
          rw [componentOfSegment?, if_neg (fun same => same.elim moves.1 moves.2)]
          unfold componentOfStep
          split
          · rfl
          · rfl
        rw [List.filterMap_cons_some own, List.filter_cons_of_pos (by simpa using moves),
          List.map_cons, ih]
      · have idle : componentOfSegment? segment = none := by
          unfold componentOfSegment?
          rw [if_pos]
          by_contra other
          exact moves ⟨fun same => other (.inl same), fun same => other (.inr same)⟩
        rw [List.filterMap_cons_none idle, List.filter_cons_of_neg (by simpa using moves), ih]

theorem climb_step (way : Way) (segment : Bytes) :
    climbOrDescend way.stack (componentOfStep segment) = (way.step segment).stack := by
  obtain ⟨origin, names⟩ := way
  by_cases climbs : segment = [dot, dot]
  · rw [componentOfStep, if_pos climbs, Way.step_up climbs]
    cases names with
    | cons name above => rfl
    | nil =>
        cases origin with
        | root => rfl
        | above levels =>
            cases levels with
            | zero => rfl
            | succ levels => rfl
  · rw [componentOfStep, if_neg climbs, Way.step_down climbs]
    rfl

theorem climb_steps (segments : List Bytes) (way : Way) :
    (segments.map componentOfStep).foldl climbOrDescend way.stack =
      (segments.foldl Way.step way).stack := by
  induction segments generalizing way with
  | nil => rfl
  | cons segment rest ih =>
      rw [List.map_cons, List.foldl_cons, List.foldl_cons, climb_step, ih]

theorem components_stack (path : Path) :
    path.components.foldl climbOrDescend [] = path.way.stack := by
  have lead : (if path.isAbsolute then [.root]
      else if path.startsHere then [.current] else []).foldl climbOrDescend [] =
      Way.stack ⟨path.origin, []⟩ := by
    rw [origin]
    split
    · rfl
    split
    · rfl
    · rfl
  rw [components, List.foldl_append, lead, components_of_segments, climb_steps]
  rfl

/-! ## Joined segments -/

theorem join_steps {segment : Bytes} (slashless : slash ∉ segment) (moves : Moves segment)
    (directory : Path) : (directory.join ⟨segment⟩).steps = directory.steps ++ [segment] := by
  obtain ⟨front, segments, before⟩ := join_name_segments slashless moves directory
  have split : (directory.join ⟨segment⟩).steps =
      (directory.join ⟨segment⟩).segments.filter fun piece => Moves piece := rfl
  rw [split, segments, List.filter_append, before, List.filter_cons_of_pos (by simpa using moves)]
  rfl

theorem join_all {segments : List Bytes}
    (movable : ∀ segment ∈ segments, slash ∉ segment ∧ Moves segment) (directory : Path) :
    let joined := segments.foldl (fun path segment => path.join ⟨segment⟩) directory
    joined.steps = directory.steps ++ segments ∧ joined.isAbsolute = directory.isAbsolute := by
  induction segments generalizing directory with
  | nil => exact ⟨(List.append_nil _).symm, rfl⟩
  | cons segment rest ih =>
      obtain ⟨slashless, moves⟩ := movable segment List.mem_cons_self
      obtain ⟨steps, absolute⟩ := ih (fun other member =>
        movable other (List.mem_cons_of_mem _ member)) (directory.join ⟨segment⟩)
      rw [List.foldl_cons]
      constructor
      · rw [steps, join_steps slashless moves, List.append_assoc]
        rfl
      · rw [absolute, join_name_absolute slashless moves]

/-! ## Normal form -/

theorem way_movable (path : Path) : ∀ segment ∈ path.way.steps, slash ∉ segment ∧ Moves segment := by
  intro segment member
  rcases List.mem_append.1 member with before | name
  · have climbs : segment = [dot, dot] := by
      cases origin : path.way.origin with
      | root => rw [origin] at before; cases before
      | above levels =>
          rw [origin] at before
          exact List.eq_of_mem_replicate before
    rw [climbs]
    decide
  · have isName := way_name (List.mem_reverse.1 name)
    exact ⟨isName.slashless, isName.moves⟩

theorem way_absolute (path : Path) : path.way.origin = .root ↔ path.isAbsolute = true := by
  have kept (segments : List Bytes) (way : Way) :
      (segments.foldl Way.step way).origin = .root ↔ way.origin = .root := by
    induction segments generalizing way with
    | nil => exact Iff.rfl
    | cons segment rest ih =>
        obtain ⟨origin, names⟩ := way
        rw [List.foldl_cons, ih]
        by_cases climbs : segment = [dot, dot]
        · rw [Way.step_up climbs]
          cases names with
          | nil => cases origin <;> simp [Origin.up]
          | cons => rfl
        · rw [Way.step_down climbs]
  rw [way, kept, origin]
  split <;> simp_all

/-- The texts of the components behind the root. -/
theorem stack_texts (way : Way) :
    way.stack.reverse.map Component.text =
      (if way.origin = .root then [[slash]] else []) ++ way.steps := by
  obtain ⟨origin, names⟩ := way
  have named : ((names.map Component.name).map Component.text) = names := by
    rw [List.map_map]
    exact List.map_id names
  rw [Way.stack, List.map_reverse, List.map_append, named, List.reverse_append]
  cases origin with
  | root => rfl
  | above levels => simp [Origin.components, Way.steps, Origin.steps, Component.text]

/-- The normal form is `.` where a way stays, otherwise the segments of the way are joined. -/
theorem normalize_joined (path : Path) :
    (path.way.origin ≠ .root ∧ path.way.steps = [] ∧ path.normalize = ⟨[dot]⟩) ∨
      (path.way.origin = .root ∨ path.way.steps ≠ []) ∧
        path.normalize = path.way.steps.foldl (fun path segment => path.join ⟨segment⟩)
          (if path.way.origin = .root then ⟨[slash]⟩ else ⟨[]⟩) := by
  have texts := stack_texts path.way
  have folded := components_stack path
  rw [normalize]
  split
  · rename_i nothing
    rw [folded] at nothing
    rw [nothing] at texts
    have relative : ¬ path.way.origin = .root := by
      intro root
      rw [if_pos root] at texts
      cases texts
    rw [if_neg relative] at texts
    exact .inl ⟨relative, texts.symm, rfl⟩
  · rename_i something
    rw [folded] at something
    have joined : ofComponents (path.components.foldl climbOrDescend []).reverse =
        ((path.components.foldl climbOrDescend []).reverse.map Component.text).foldl
          (fun path segment => path.join ⟨segment⟩) ⟨[]⟩ := by
      rw [List.foldl_map]
      rfl
    rw [joined, folded, texts]
    split
    · rename_i root
      exact .inr ⟨.inl root, rfl⟩
    · rename_i relative
      refine .inr ⟨.inr fun still => something ?_, rfl⟩
      rw [if_neg relative, still] at texts
      exact List.reverse_eq_nil_iff.1 (List.map_eq_nil_iff.1 texts)

theorem normalize_steps (path : Path) :
    path.normalize.steps = path.way.steps ∧ path.normalize.isAbsolute = path.isAbsolute := by
  have absolute := way_absolute path
  rcases normalize_joined path with ⟨relative, still, normal⟩ | ⟨-, normal⟩
  · rw [Ne, absolute, Bool.not_eq_true] at relative
    rw [normal, still, relative]
    exact ⟨rfl, rfl⟩
  · rw [normal]
    split
    · rename_i root
      obtain ⟨steps, joined⟩ := join_all (way_movable path) ⟨[slash]⟩
      exact ⟨steps, joined.trans (absolute.1 root).symm⟩
    · rename_i relative
      obtain ⟨steps, joined⟩ := join_all (way_movable path) ⟨[]⟩
      rw [absolute, Bool.not_eq_true] at relative
      exact ⟨steps, joined.trans relative.symm⟩

theorem climb_levels (levels done : Nat) :
    (List.replicate levels [dot, dot]).foldl Way.step ⟨.above done, []⟩ =
      ⟨.above (done + levels), []⟩ := by
  induction levels generalizing done with
  | zero => rfl
  | succ levels ih =>
      rw [List.replicate_succ, List.foldl_cons, Way.step_up rfl]
      dsimp only [Origin.up]
      rw [ih, Nat.add_assoc, Nat.add_comm 1]

theorem descend_names {names : List Bytes} (descend : ∀ name ∈ names, name ≠ [dot, dot])
    (origin : Origin) : names.reverse.foldl Way.step ⟨origin, []⟩ = ⟨origin, names⟩ := by
  induction names with
  | nil => rfl
  | cons name above ih =>
      rw [List.reverse_cons, List.foldl_append,
        ih fun other member => descend other (List.mem_cons_of_mem _ member)]
      exact Way.step_down (descend name List.mem_cons_self) _

/-- A path that is written as a way spells it goes that way. -/
theorem way_of_steps {path : Path} {way : Way} (steps : path.steps = way.steps)
    (absolute : way.origin = .root ↔ path.isAbsolute = true)
    (descend : ∀ name ∈ way.names, name ≠ [dot, dot]) : path.way = way := by
  obtain ⟨start, names⟩ := way
  rw [Path.way, steps, Way.steps, List.foldl_append, origin]
  cases start with
  | root =>
      rw [if_pos (absolute.1 rfl)]
      exact descend_names descend .root
  | above levels =>
      rw [if_neg fun rooted => nomatch absolute.2 rooted]
      dsimp only [Origin.steps]
      rw [climb_levels, Nat.zero_add, descend_names descend]

theorem way_normalize (path : Path) : path.normalize.way = path.way := by
  obtain ⟨steps, absolute⟩ := normalize_steps path
  apply way_of_steps steps
  · rw [way_absolute, absolute]
  · exact fun name member => (way_name member).descends

/-- The normal form of a path leads to the same place, wherever the path begins. -/
theorem destination_normalize (path : Path) (base : Place) :
    path.normalize.destination base = path.destination base := by
  rw [destination_way, way_normalize, destination_way]

end Path

end Checkup
