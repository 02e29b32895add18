import Checkup.Proofs.Path.Way
import Mathlib.Algebra.Order.BigOperators.Group.List
import Mathlib.Algebra.Order.Group.Nat

/-!
# Normal forms of paths

The normal form of a path spells its way out: `.` where it stays, otherwise the climbs and then the
names, or the names below the root, with one slash between each two. Two paths have the same normal
form exactly if they lead to the same place from every directory; a directory below enough levels
of a name of its own tells any two ways apart.
-/

namespace Checkup

namespace Path

/-! ## How a normal form is written -/

/-- The texts of normal forms. There is no `.` in them but the one that stands alone, no empty
segment, and a `..` only at the beginning of a relative one. -/
inductive Normal : Bytes → Prop
  | here : Normal [dot]
  | absolute {names : List Bytes} (areNames : ∀ name ∈ names, IsName name) :
      Normal (slash :: [slash].intercalate names)
  | relative {levels : Nat} {names : List Bytes} (moves : levels ≠ 0 ∨ names ≠ [])
      (areNames : ∀ name ∈ names, IsName name) :
      Normal ([slash].intercalate (List.replicate levels [dot, dot] ++ names))

theorem intercalate_cons {Item : Type} (separator : Item) (first : List Item)
    (rest : List (List Item)) :
    [separator].intercalate (first :: rest) =
      first ++ rest.flatMap fun piece => separator :: piece := by
  induction rest generalizing first with
  | nil => rw [List.intercalate_singleton, List.flatMap_nil, List.append_nil]
  | cons second rest ih =>
      rw [List.intercalate_cons_cons, ih, List.flatMap_cons, List.append_assoc]
      rfl

/-- A segment is joined by a slash to a text that is not empty and does not end with one. -/
theorem join_text {segment text : Bytes} (slashless : slash ∉ segment) (moves : Moves segment)
    (nonempty : text ≠ []) (ends : text.getLast? ≠ some slash) :
    (⟨text⟩ : Path).join ⟨segment⟩ = ⟨text ++ slash :: segment⟩ := by
  have filled : text.isEmpty = false := by simpa using nonempty
  have inside : ¬ (text.getLast? == some slash) = true := fun same => ends (eq_of_beq same)
  unfold join
  rw [name_relative slashless moves, filled, if_neg (by simp), if_neg inside]

theorem ends_slashless {segment : Bytes} (slashless : slash ∉ segment) (moves : Moves segment)
    (front : Bytes) : (front ++ segment).getLast? ≠ some slash := by
  intro same
  rw [List.getLast?_append] at same
  cases last : segment.getLast? with
  | none => exact moves.1 (List.getLast?_eq_none_iff.1 last)
  | some byte =>
      rw [last, Option.some_or, Option.some.injEq] at same
      exact slashless (same ▸ List.mem_of_getLast? last)

theorem join_all_text {segments : List Bytes}
    (movable : ∀ segment ∈ segments, slash ∉ segment ∧ Moves segment) {text : Bytes}
    (nonempty : text ≠ []) (ends : text.getLast? ≠ some slash) :
    segments.foldl (fun path segment => path.join ⟨segment⟩) (⟨text⟩ : Path) =
      ⟨text ++ segments.flatMap fun segment => slash :: segment⟩ := by
  induction segments generalizing text with
  | nil => rw [List.foldl_nil, List.flatMap_nil, List.append_nil]
  | cons segment rest ih =>
      obtain ⟨slashless, moves⟩ := movable segment List.mem_cons_self
      have later := ends_slashless slashless moves (text ++ [slash])
      rw [List.append_assoc, List.singleton_append] at later
      rw [List.foldl_cons, join_text slashless moves nonempty ends,
        ih (fun other member => movable other (List.mem_cons_of_mem _ member)) (by simp) later,
        List.flatMap_cons, List.append_assoc]

/-- Segments that are joined to the empty path or to the root stand between single slashes. -/
theorem join_from {segments : List Bytes}
    (movable : ∀ segment ∈ segments, slash ∉ segment ∧ Moves segment) {start : Bytes}
    (begins : start = [] ∨ start = [slash]) :
    segments.foldl (fun path segment => path.join ⟨segment⟩) (⟨start⟩ : Path) =
      ⟨start ++ [slash].intercalate segments⟩ := by
  cases segments with
  | nil => rw [List.foldl_nil, List.intercalate_nil, List.append_nil]
  | cons segment rest =>
      obtain ⟨slashless, moves⟩ := movable segment List.mem_cons_self
      have first : (⟨start⟩ : Path).join ⟨segment⟩ = ⟨start ++ segment⟩ := by
        unfold join
        rw [name_relative slashless moves]
        rcases begins with rfl | rfl <;> rfl
      rw [List.foldl_cons, first, join_all_text
        (fun other member => movable other (List.mem_cons_of_mem _ member))
        (fun empty => moves.1 (List.append_eq_nil_iff.1 empty).2)
        (ends_slashless slashless moves start), intercalate_cons, List.append_assoc]

end Path

/-- How a way is written in full. -/
def Way.text (way : Way) : Bytes :=
  match way.origin with
  | .root => Path.slash :: [Path.slash].intercalate way.steps
  | .above _ => if way.steps = [] then [Path.dot] else [Path.slash].intercalate way.steps

namespace Path

theorem normalize_way (path : Path) : path.normalize = ⟨path.way.text⟩ := by
  have joined {start : Bytes} (begins : start = [] ∨ start = [slash]) :=
    join_from (way_movable path) begins
  unfold Way.text
  rcases normalize_joined path with ⟨relative, still, normal⟩ | ⟨goes, normal⟩
  · rw [normal]
    cases origin : path.way.origin with
    | root => exact absurd origin relative
    | above levels =>
        dsimp only
        rw [if_pos still]
  · rw [normal]
    cases origin : path.way.origin with
    | root =>
        rw [if_pos rfl, joined (.inr rfl)]
        rfl
    | above levels =>
        have moving : path.way.steps ≠ [] := goes.resolve_left (by rw [origin]; exact nofun)
        rw [if_neg nofun, joined (.inl rfl)]
        dsimp only
        rw [if_neg moving, List.nil_append]

theorem normal_normalize (path : Path) : Normal path.normalize.text := by
  have areNames : ∀ name ∈ path.way.names.reverse, IsName name := fun name member =>
    way_name (List.mem_reverse.1 member)
  rw [normalize_way]
  dsimp only
  unfold Way.text
  cases origin : path.way.origin with
  | root =>
      rw [Way.steps, origin]
      exact .absolute areNames
  | above levels =>
      dsimp only
      split
      · exact .here
      · rename_i moving
        rw [Way.steps, origin] at moving ⊢
        refine .relative ?_ areNames
        by_contra still
        obtain ⟨level, names⟩ := not_or.1 still
        rw [not_not.1 level, not_not.1 names] at moving
        exact moving rfl

theorem normalize_normalize (path : Path) : path.normalize.normalize = path.normalize := by
  rw [normalize_way path.normalize, way_normalize, ← normalize_way]

/-! ## Places that tell ways apart -/

/-- A directory, given by the names that lead to it. -/
def IsDirectory (base : Place) : Prop := ∀ name ∈ base, IsName name

/-- Two paths lead to the same place, from whichever directory they begin. -/
def Agree (path other : Path) : Prop :=
  ∀ base, IsDirectory base → path.destination base = other.destination base

theorem fresh_name (names : List Bytes) : ∃ name, IsName name ∧ name ∉ names := by
  let letter : UInt8 := 0x61
  let name := List.replicate ((names.map List.length).sum + 3) letter
  have length : name.length = (names.map List.length).sum + 3 := List.length_replicate
  have other {text : Bytes} (short : text.length < 3) : name ≠ text := by
    intro same
    rw [same] at length
    omega
  refine ⟨name, ⟨?_, ⟨other (by decide), other (by decide)⟩, other (by decide)⟩, ?_⟩
  · intro member
    exact absurd (List.eq_of_mem_replicate member) (by decide)
  · intro member
    have bound := List.le_sum_of_mem (List.mem_map_of_mem (f := List.length) member)
    omega

end Path

/-- How many of the names of a directory are left at an origin. -/
def Origin.left (count : Nat) : Origin → Nat
  | root => 0
  | above levels => count - levels

def Origin.levels : Origin → Nat
  | root => 0
  | above levels => levels

namespace Way

theorem place_below (way : Way) (name : Bytes) (count : Nat) :
    way.place (List.replicate count name) =
      way.names ++ List.replicate (way.origin.left count) name := by
  obtain ⟨origin, names⟩ := way
  cases origin with
  | root => rfl
  | above levels => exact congrArg (names ++ ·) List.drop_replicate

theorem names_of_place {name : Bytes} {names others : List Bytes} {left right : Nat}
    (fresh : name ∉ names) (freshToo : name ∉ others)
    (same : names ++ List.replicate left name = others ++ List.replicate right name) :
    names = others ∧ left = right := by
  have kept {names : List Bytes} (fresh : name ∉ names) (count : Nat) :
      (names ++ List.replicate count name).filter (· ≠ name) = names := by
    rw [List.filter_append, List.filter_replicate_of_neg (by simp), List.append_nil,
      List.filter_eq_self]
    intro other member
    have differs : other ≠ name := fun equal => fresh (equal ▸ member)
    simpa using differs
  have namesSame : names = others := by
    rw [← kept fresh left, same, kept freshToo]
  subst namesSame
  have lengths := congrArg List.length (List.append_cancel_left same)
  rw [List.length_replicate, List.length_replicate] at lengths
  exact ⟨rfl, lengths⟩

theorem origin_of_left {origin other : Origin} {count : Nat} (deep : origin.levels < count)
    (deepToo : other.levels < count) (same : origin.left count = other.left count) :
    origin = other := by
  cases origin with
  | root =>
      cases other with
      | root => rfl
      | above levels => simp only [Origin.left, Origin.levels] at *; omega
  | above levels =>
      cases other with
      | root => simp only [Origin.left, Origin.levels] at *; omega
      | above more =>
          simp only [Origin.left, Origin.levels] at *
          rw [show levels = more by omega]

end Way

namespace Path

theorem way_of_agree {path other : Path} (agree : Agree path other) : path.way = other.way := by
  obtain ⟨name, isName, fresh⟩ := fresh_name (path.way.names ++ other.way.names)
  rw [List.mem_append, not_or] at fresh
  have count : ∃ count, path.way.origin.levels < count ∧ other.way.origin.levels < count :=
    ⟨path.way.origin.levels + other.way.origin.levels + 1, by omega, by omega⟩
  obtain ⟨count, deep, deepToo⟩ := count
  have same := agree (List.replicate count name) fun each member =>
    List.eq_of_mem_replicate member ▸ isName
  rw [destination_way, destination_way, Way.place_below, Way.place_below] at same
  obtain ⟨names, left⟩ := Way.names_of_place fresh.1 fresh.2 same
  have origins := Way.origin_of_left deep deepToo left
  change Way.mk path.way.origin path.way.names = ⟨other.way.origin, other.way.names⟩
  rw [origins, names]

/-- Paths with one normal form are those that lead to one place. -/
theorem normalize_eq_iff {path other : Path} :
    path.normalize = other.normalize ↔ Agree path other := by
  constructor
  · intro same base _
    rw [← destination_normalize path, same, destination_normalize]
  · intro agree
    rw [normalize_way, normalize_way, way_of_agree agree]

/-! ## Components and file names -/

/-- The segment of a component that moves. -/
def Component.step? : Component → Option Bytes
  | .parent => some [dot, dot]
  | .name text => some text
  | _ => none

theorem components_split (path : Path) :
    path.components = (if path.isAbsolute then [.root] else if path.startsHere then [.current] else
      []) ++ path.steps.map componentOfStep := by
  rw [components, components_of_segments]
  rfl

theorem steps_of_components (path : Path) :
    path.components.filterMap Component.step? = path.steps := by
  have step (segment : Bytes) : (componentOfStep segment).step? = some segment := by
    unfold componentOfStep
    split
    · rename_i climbs
      rw [climbs]
      rfl
    · rfl
  have each : Component.step? ∘ componentOfStep = some := funext step
  rw [components_split, List.filterMap_append, List.filterMap_map, each, List.filterMap_some]
  split
  · rfl
  split
  · rfl
  · rfl

theorem root_of_components (path : Path) : .root ∈ path.components ↔ path.isAbsolute = true := by
  have unrooted : .root ∉ path.steps.map componentOfStep := by
    intro member
    obtain ⟨segment, -, same⟩ := List.mem_map.1 member
    unfold componentOfStep at same
    split at same
    · cases same
    · cases same
  rw [components_split, List.mem_append, or_iff_left unrooted]
  by_cases rooted : path.isAbsolute = true
  · rw [if_pos rooted]
    exact iff_of_true (List.mem_singleton_self _) rooted
  · rw [if_neg rooted]
    refine iff_of_false ?_ rooted
    split <;> decide

theorem destination_of_components {path other : Path} (same : path.components = other.components)
    (base : Place) : path.destination base = other.destination base := by
  have absolute : path.isAbsolute = other.isAbsolute := by
    rw [Bool.eq_iff_iff, ← root_of_components, same, root_of_components]
  rw [destination, destination, ← steps_of_components, same, steps_of_components, absolute]

theorem file_name_component {path : Path} {name : Bytes} :
    path.fileName? = some name ↔ path.components.getLast? = some (.name name) := by
  unfold fileName?
  constructor
  · intro named
    split at named
    · rename_i last
      rw [last, Option.some.inj named]
    · cases named
  · intro last
    rw [last]

/-- A path names a file by its last step, unless that climbs. -/
theorem file_name_iff {path : Path} {name : Bytes} :
    path.fileName? = some name ↔ path.steps.getLast? = some name ∧ name ≠ [dot, dot] := by
  rw [file_name_component]
  rcases List.eq_nil_or_concat path.steps with still | ⟨front, last, split⟩
  · constructor
    · intro named
      have step : name ∈ path.components.filterMap Component.step? :=
        List.mem_filterMap.2 ⟨.name name, List.mem_of_getLast? named, rfl⟩
      rw [steps_of_components, still] at step
      cases step
    · rintro ⟨named, -⟩
      rw [still] at named
      cases named
  · rw [List.concat_eq_append] at split
    rw [components_split, split, List.map_append, List.map_singleton, ← List.append_assoc,
      List.getLast?_concat, List.getLast?_concat, Option.some.injEq, Option.some.injEq,
      componentOfStep]
    by_cases climbs : last = [dot, dot]
    · rw [if_pos climbs]
      constructor
      · intro other
        cases other
      · rintro ⟨rfl, descends⟩
        exact absurd climbs descends
    · rw [if_neg climbs, Component.name.injEq]
      exact ⟨fun same => ⟨same, same ▸ climbs⟩, And.left⟩

theorem file_name_normalize {path : Path} {name : Bytes} (named : path.fileName? = some name) :
    path.normalize.fileName? = some name := by
  obtain ⟨last, descends⟩ := file_name_iff.1 named
  obtain ⟨front, split⟩ := List.getLast?_eq_some_iff.1 last
  refine file_name_iff.2 ⟨?_, descends⟩
  rw [(normalize_steps path).1, way, split, List.foldl_concat, Way.step_down descends, Way.steps,
    List.reverse_cons, ← List.append_assoc, List.getLast?_concat]

/-- Normal forms are canonical: equal, as texts and as components, exactly for paths that lead to
the same place from every directory. A normal form leads where its path leads, is its own normal
form, is written without anything idle or taken back, and keeps the name of a file. -/
theorem normal_form_canonical (path other : Path) :
    (path.normalize = other.normalize ↔ Agree path other) ∧
      (path.normalize.components = other.normalize.components ↔ Agree path other) ∧
      (∀ base, path.normalize.destination base = path.destination base) ∧
      path.normalize.normalize = path.normalize ∧
      Normal path.normalize.text ∧
      ∀ name, path.fileName? = some name → path.normalize.fileName? = some name := by
  refine ⟨normalize_eq_iff, ?_, destination_normalize path, normalize_normalize path,
    normal_normalize path, fun name => file_name_normalize⟩
  constructor
  · intro same base _
    rw [← destination_normalize path, destination_of_components same, destination_normalize]
  · intro agree
    rw [normalize_eq_iff.2 agree]

example : (Path.ofString "../a/./b//../../c/").normalize = .ofString "../c" := by decide +kernel

end Path

end Checkup
