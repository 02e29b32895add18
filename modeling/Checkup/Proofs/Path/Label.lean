import Checkup.Proofs.Invocation
import Checkup.Proofs.Path.NormalForm

/-!
# Labels of paths

What lies below the working directory is shown by the steps that lead there from it. Any other path
is shown as it is written, and so is one that climbs right behind the working directory. Either
way the label leads from the working directory to the place of the path, and a label is its own
label.
-/

namespace Checkup.Path

open FileTree (stepFrom)
open Text.Utf8 (restored restored_nil restored_eq_iff decode_encode decode_lossy_encode)

variable {path workingDirectory : Path}

/-! ## Differences -/

theorem component_of_step_text (segment : Bytes) : (componentOfStep segment).text = segment := by
  unfold componentOfStep
  split
  · rename_i climbs
    rw [climbs]
    rfl
  · rfl

theorem component_of_step_injective : Function.Injective componentOfStep := by
  intro segment other same
  rw [← component_of_step_text segment, same, component_of_step_text]

theorem texts_of_steps (segments : List Bytes) :
    (segments.map componentOfStep).map Component.text = segments := by
  rw [List.map_map]
  exact (List.map_congr_left fun segment _ => component_of_step_text segment).trans (List.map_id _)

theorem component_climbs_iff {segment : Bytes} :
    componentOfStep segment = .parent ↔ segment = [dot, dot] :=
  component_of_step_injective.eq_iff' rfl

theorem difference_below (base rest : List Component) :
    difference? (base ++ rest) base = some rest := by
  induction base with
  | nil => rw [List.nil_append, difference?]
  | cons component base ih => rw [List.cons_append, difference?, if_pos rfl, ih]

/-- Where the path leaves the base, the way to it begins with a climb, if there is one at all. -/
theorem difference_beside {segments base : List Bytes} (outside : ¬ base <+: segments) :
    difference? (segments.map componentOfStep) (base.map componentOfStep) = none ∨
      ∃ climbs left, left <:+ segments ∧
        difference? (segments.map componentOfStep) (base.map componentOfStep) =
          some ((List.replicate (climbs + 1) [dot, dot] ++ left).map componentOfStep) := by
  have climbing (others : List Bytes) :
      (others.map componentOfStep).map (fun _ => Component.parent) =
        (List.replicate others.length [dot, dot]).map componentOfStep := by
    rw [List.map_const', List.length_map, List.map_replicate]
    rfl
  induction base generalizing segments with
  | nil => exact absurd List.nil_prefix outside
  | cons step base ih =>
      cases segments with
      | nil =>
          right
          refine ⟨base.length, [], List.nil_suffix, ?_⟩
          rw [List.append_nil, ← List.length_cons (a := step), ← climbing]
          rfl
      | cons segment rest =>
          simp only [List.map_cons, difference?, component_of_step_injective.eq_iff,
            component_climbs_iff]
          by_cases same : segment = step
          · rw [if_pos same]
            have outsideToo : ¬ base <+: rest := fun inside =>
              outside (List.cons_prefix_cons.2 ⟨same.symm, inside⟩)
            refine (ih outsideToo).imp_right ?_
            rintro ⟨climbs, left, suffix, found⟩
            exact ⟨climbs, left, suffix.trans (List.suffix_cons _ _), found⟩
          · rw [if_neg same]
            by_cases climbs : step = [dot, dot]
            · exact .inl (if_pos climbs)
            · right
              refine ⟨base.length, segment :: rest, List.suffix_refl _, ?_⟩
              simp only [if_neg climbs, climbing, List.replicate_succ, List.cons_append,
                List.map_cons, List.map_append]
              rfl

/-! ## Joined steps -/

section Joined

variable {segments : List Bytes} (movable : ∀ segment ∈ segments, slash ∉ segment ∧ Moves segment)

include movable

theorem of_components_of_steps :
    ofComponents (segments.map componentOfStep) = ⟨[slash].intercalate segments⟩ := by
  have texts : ofComponents (segments.map componentOfStep) =
      segments.foldl (fun path segment => path.join ⟨segment⟩) ⟨[]⟩ := by
    rw [ofComponents, List.foldl_map]
    simp only [component_of_step_text]
  rw [texts, join_from movable (.inl rfl), List.nil_append]

theorem joined_steps : (⟨[slash].intercalate segments⟩ : Path).steps = segments ∧
    (⟨[slash].intercalate segments⟩ : Path).isAbsolute = false := by
  have joined := join_all movable ⟨[]⟩
  rw [join_from movable (.inl rfl), List.nil_append] at joined
  exact joined

theorem joined_split (moving : segments ≠ []) :
    ([slash].intercalate segments).splitOn slash = segments :=
  List.splitOn_intercalate slash (fun segment member => (movable segment member).1) moving

theorem joined_empty_iff : [slash].intercalate segments = [] ↔ segments = [] := by
  constructor
  · intro nothing
    have steps := (joined_steps movable).1
    rw [nothing] at steps
    exact steps.symm
  · rintro rfl
    rfl

theorem joined_components : (⟨[slash].intercalate segments⟩ : Path).components =
    segments.map componentOfStep := by
  obtain ⟨steps, relative⟩ := joined_steps movable
  have begun : (⟨[slash].intercalate segments⟩ : Path).startsHere = false := by
    cases segments with
    | nil => rfl
    | cons segment rest =>
        rw [startsHere, Path.segments, joined_split movable (List.cons_ne_nil _ _)]
        simpa using (movable segment List.mem_cons_self).2.2
  rw [components_split, steps, relative, begun]
  rfl

/-- Segments that are text are text when they are joined. -/
theorem joined_restored (readable : segments.map restored = segments) :
    restored ([slash].intercalate segments) = [slash].intercalate segments := by
  by_cases still : segments = []
  · rw [still]
    exact restored_nil
  · calc restored ([slash].intercalate segments)
        = [slash].intercalate ((restored ([slash].intercalate segments)).splitOn slash) :=
          (List.intercalate_splitOn slash).symm
      _ = [slash].intercalate segments := by
          rw [split_restored, joined_split movable still, readable]

end Joined

/-! ## Labels -/

theorem components_absolute (absolute : path.isAbsolute = true) :
    path.components = .root :: path.steps.map componentOfStep := by
  rw [components_split, if_pos absolute]
  rfl

theorem label_relative (absolute : workingDirectory.isAbsolute = true)
    (relative : path.isAbsolute = false) : workingDirectory.labelFrom path = path := by
  rw [labelFrom, relativeTo?, relative, absolute]
  rfl

theorem relative_to_absolute (absolute : workingDirectory.isAbsolute = true)
    (absoluteToo : path.isAbsolute = true) :
    path.relativeTo? workingDirectory =
      (difference? (path.steps.map componentOfStep)
        (workingDirectory.steps.map componentOfStep)).map ofComponents := by
  rw [relativeTo?, absolute, absoluteToo, components_absolute absolute,
    components_absolute absoluteToo, difference?, if_pos rfl]
  rfl

/-- What is told from elsewhere is shown, unless it is nothing or begins with a climb. -/
theorem label_of_relative {segments : List Bytes}
    (movable : ∀ segment ∈ segments, slash ∉ segment ∧ Moves segment)
    (found : path.relativeTo? workingDirectory = some (ofComponents (segments.map componentOfStep))) :
    workingDirectory.labelFrom path =
      if segments = [] ∨ segments.head? = some [dot, dot] then path
      else ⟨[slash].intercalate segments⟩ := by
  have head : (segments.map componentOfStep).head? = some .parent ↔
      segments.head? = some [dot, dot] := by
    rw [List.head?_map, Option.map_eq_some_iff]
    simp only [component_climbs_iff, exists_eq_right]
  rw [labelFrom, found, of_components_of_steps movable]
  dsimp only
  rw [joined_components movable]
  simp only [Bool.or_eq_true, List.isEmpty_iff, joined_empty_iff movable, beq_iff_eq, head]

theorem steps_movable {segments : List Bytes} (suffix : segments <:+ path.steps) :
    ∀ segment ∈ segments, slash ∉ segment ∧ Moves segment := fun _ member =>
  ⟨step_slashless (suffix.mem member), step_moves (suffix.mem member)⟩

theorem later_movable {front later : List Bytes} (below : path.steps = front ++ later) :
    ∀ segment ∈ later, slash ∉ segment ∧ Moves segment :=
  steps_movable (below ▸ List.suffix_append front later)

theorem label_below (absolute : workingDirectory.isAbsolute = true)
    (absoluteToo : path.isAbsolute = true) {later : List Bytes}
    (below : path.steps = workingDirectory.steps ++ later) :
    workingDirectory.labelFrom path =
      if later = [] ∨ later.head? = some [dot, dot] then path else ⟨[slash].intercalate later⟩ := by
  apply label_of_relative (later_movable below)
  rw [relative_to_absolute absolute absoluteToo, below, List.map_append, difference_below]
  rfl

theorem label_outside (absolute : workingDirectory.isAbsolute = true)
    (absoluteToo : path.isAbsolute = true)
    (outside : ¬ workingDirectory.steps <+: path.steps) :
    workingDirectory.labelFrom path = path := by
  have relative := relative_to_absolute absolute absoluteToo
  rcases difference_beside outside with missing | ⟨climbs, left, suffix, found⟩
  · rw [missing] at relative
    rw [labelFrom, relative]
    rfl
  · rw [found] at relative
    have movable : ∀ segment ∈ List.replicate (climbs + 1) [dot, dot] ++ left,
        slash ∉ segment ∧ Moves segment := by
      intro segment member
      rcases List.mem_append.1 member with climb | later
      · rw [List.eq_of_mem_replicate climb]
        decide
      · exact steps_movable suffix segment later
    rw [label_of_relative movable relative, if_pos]
    exact .inr rfl

/-- A label is the path itself or the steps behind the working directory. -/
theorem label_cases (absolute : workingDirectory.isAbsolute = true) (path : Path) :
    workingDirectory.labelFrom path = path ∨
      ∃ later, path.isAbsolute = true ∧ path.steps = workingDirectory.steps ++ later ∧
        workingDirectory.labelFrom path = ⟨[slash].intercalate later⟩ := by
  cases absoluteToo : path.isAbsolute with
  | false => exact .inl (label_relative absolute absoluteToo)
  | true =>
      by_cases inside : workingDirectory.steps <+: path.steps
      · obtain ⟨later, below⟩ := inside
        have label := label_below absolute absoluteToo below.symm
        split at label
        · exact .inl label
        · exact .inr ⟨later, rfl, below.symm, label⟩
      · exact .inl (label_outside absolute absoluteToo inside)

theorem label_label (absolute : workingDirectory.isAbsolute = true) (path : Path) :
    workingDirectory.labelFrom (workingDirectory.labelFrom path) =
      workingDirectory.labelFrom path := by
  rcases label_cases absolute path with own | ⟨later, -, below, label⟩
  · rw [own, own]
  · rw [label]
    exact label_relative absolute (joined_steps (later_movable below)).2

/-- A label leads from the working directory to the place of the path. -/
theorem destination_label (absolute : workingDirectory.isAbsolute = true) (path : Path) :
    let here := workingDirectory.destination []
    (workingDirectory.labelFrom path).destination here = path.destination here := by
  intro here
  rcases label_cases absolute path with own | ⟨later, absoluteToo, below, label⟩
  · rw [own]
  · obtain ⟨steps, relative⟩ := joined_steps (later_movable below)
    have begins : here = workingDirectory.steps.foldl stepFrom [] := by
      dsimp only [here]
      rw [destination, if_pos absolute]
    rw [label, destination, destination, steps, relative, absoluteToo, below, List.foldl_append,
      begins]
    rfl

/-! ## Labels as text -/

theorem display_of_string (text : String) : (ofString text).display = text := by
  rw [ofString, Bytes.ofString, display, Bytes.toLossyString, decode_lossy_encode,
    String.ofList_toList]

theorem restored_of_string (text : String) : restored (ofString text).text = (ofString text).text := by
  rw [restored, ofString, Bytes.ofString, decode_lossy_encode]

/-- Nothing is replaced in the label of a path that is text. -/
theorem label_restored (absolute : workingDirectory.isAbsolute = true) (text : String) :
    restored (workingDirectory.labelFrom (ofString text)).text =
      (workingDirectory.labelFrom (ofString text)).text := by
  have whole := restored_of_string text
  rcases label_cases absolute (ofString text) with own | ⟨later, -, below, label⟩
  · rw [own, whole]
  · have each : (ofString text).steps.map restored = (ofString text).steps := by
      have steps := restored_steps (ofString text).text
      rw [whole] at steps
      exact steps.symm
    have readable : later.map restored = later := by
      rw [below, List.map_append] at each
      exact (List.append_inj each (List.length_map _)).2
    rw [label]
    exact joined_restored (later_movable below) readable

theorem path_of_label (absolute : workingDirectory.isAbsolute = true) (text : String) :
    ofString (workingDirectory.labelFrom (ofString text)).display =
      workingDirectory.labelFrom (ofString text) := by
  rw [of_string_display, label_restored absolute]

/-! ## Component by component -/

/-- What stands behind the components of the working directory are steps. -/
theorem below_of_components (absolute : workingDirectory.isAbsolute = true)
    {rest : List Component} (split : path.components = workingDirectory.components ++ rest) :
    path.isAbsolute = true ∧ ∃ later, path.steps = workingDirectory.steps ++ later ∧
      rest = later.map componentOfStep := by
  have absoluteToo : path.isAbsolute = true := by
    rw [← root_of_components, split, List.mem_append, root_of_components]
    exact .inl absolute
  refine ⟨absoluteToo, ?_⟩
  rw [components_absolute absolute, components_absolute absoluteToo, List.cons_append,
    List.cons.injEq, List.map_eq_append_iff] at split
  obtain ⟨-, front, later, steps, same, behind⟩ := split
  rw [component_of_step_injective.list_map same] at steps
  exact ⟨later, steps, behind.symm⟩

theorem prefix_of_steps (absolute : workingDirectory.isAbsolute = true)
    (absoluteToo : path.isAbsolute = true) (inside : workingDirectory.steps <+: path.steps) :
    workingDirectory.components <+: path.components := by
  rw [components_absolute absolute, components_absolute absoluteToo, List.cons_prefix_cons]
  exact ⟨rfl, inside.map _⟩

/-- Where the path goes on with a name behind the working directory, the label is what follows. -/
theorem label_descending (absolute : workingDirectory.isAbsolute = true)
    {step : Component} {rest : List Component}
    (split : path.components = workingDirectory.components ++ step :: rest)
    (descends : step ≠ .parent) :
    ∃ later, later ≠ [] ∧ (∀ segment ∈ later, slash ∉ segment ∧ Moves segment) ∧
      step :: rest = later.map componentOfStep ∧
      workingDirectory.labelFrom path = ⟨[slash].intercalate later⟩ := by
  obtain ⟨absoluteToo, later, below, behind⟩ := below_of_components absolute split
  have moving : later ≠ [] := by
    rintro rfl
    cases behind
  have named : later.head? ≠ some [dot, dot] := by
    intro climbs
    have first := congrArg List.head? behind
    rw [List.head?_map, climbs] at first
    exact descends (Option.some.inj first)
  refine ⟨later, moving, later_movable below, behind, ?_⟩
  rw [label_below absolute absoluteToo below, if_neg (not_or.2 ⟨moving, named⟩)]

/-- A path is shown as it is written if it is relative, is the working directory, does not lie below
it or goes on with `..` behind it. Every other path is shown by its further components, which begin
with a name and stand between single slashes. So the label of a path that is text leads from the
working directory to the place of the path, and is its own label. -/
theorem label_leads_to_file (workingDirectory : Path)
    (absolute : workingDirectory.isAbsolute = true) (text : String) :
    let path := ofString text
    let label := (workingDirectory.labelFrom path).display
    let here := workingDirectory.destination []
    (ofString label).destination here = path.destination here ∧
      (path.isAbsolute = false → label = text) ∧
      (path.components = workingDirectory.components → label = text) ∧
      (¬ workingDirectory.components <+: path.components → label = text) ∧
      (∀ rest, path.components = workingDirectory.components ++ .parent :: rest → label = text) ∧
      (∀ step rest, path.components = workingDirectory.components ++ step :: rest →
        step ≠ .parent →
          label ≠ "" ∧ (ofString label).isAbsolute = false ∧
            (ofString label).text = [slash].intercalate ((step :: rest).map Component.text) ∧
            (ofString label).components = step :: rest) ∧
      (workingDirectory.labelFrom (ofString label)).display = label := by
  intro path label here
  have asWritten (own : workingDirectory.labelFrom path = path) : label = text := by
    dsimp only [label]
    rw [own, display_of_string]
  have labelled : ofString label = workingDirectory.labelFrom path := path_of_label absolute text
  refine ⟨?_, ?_, ?_, ?_, ?_, ?_, ?_⟩
  · rw [labelled]
    exact destination_label absolute path
  · exact fun relative => asWritten (label_relative absolute relative)
  · intro same
    rw [← List.append_nil workingDirectory.components] at same
    obtain ⟨absoluteToo, later, below, nothing⟩ := below_of_components absolute same
    apply asWritten
    rw [label_below absolute absoluteToo below, if_pos]
    exact .inl (List.map_eq_nil_iff.1 nothing.symm)
  · intro outside
    cases absoluteToo : path.isAbsolute with
    | false => exact asWritten (label_relative absolute absoluteToo)
    | true =>
        exact asWritten (label_outside absolute absoluteToo fun inside =>
          outside (prefix_of_steps absolute absoluteToo inside))
  · intro rest climbing
    obtain ⟨absoluteToo, later, below, behind⟩ := below_of_components absolute climbing
    obtain ⟨segment, further, rfl, climbs, -⟩ := List.map_eq_cons_iff.1 behind.symm
    apply asWritten
    rw [label_below absolute absoluteToo below, if_pos]
    exact .inr (congrArg some (component_climbs_iff.1 climbs))
  · intro step rest split descends
    obtain ⟨later, moving, movable, behind, shown⟩ := label_descending absolute split descends
    rw [labelled, shown, behind, texts_of_steps]
    refine ⟨?_, (joined_steps movable).2, rfl, joined_components movable⟩
    intro empty
    rw [empty] at labelled
    exact moving ((joined_empty_iff movable).1 (congrArg Path.text (labelled.trans shown)).symm)
  · rw [labelled, label_label absolute]

/-- A name that begins with two dots is no climb, and a climb behind a name stays in the label. -/
theorem dotted_name_shown :
    let workingDirectory := ofString "/w"
    let path := ofString "/w//..a/./../b/"
    let label := (workingDirectory.labelFrom path).display
    workingDirectory.isAbsolute = true ∧
      path.components = workingDirectory.components ++
        [.name (Bytes.ofString "..a"), .parent, .name (Bytes.ofString "b")] ∧
      (ofString label).text = Bytes.ofString "..a/../b" ∧
      (ofString label).destination (workingDirectory.destination []) =
        [Bytes.ofString "b", Bytes.ofString "w"] := by
  intro workingDirectory path label
  have absolute : workingDirectory.isAbsolute = true := by decide +kernel
  have split : path.components = workingDirectory.components ++
      [.name (Bytes.ofString "..a"), .parent, .name (Bytes.ofString "b")] := by
    decide +kernel
  obtain ⟨leads, -, -, -, -, below, -⟩ :=
    label_leads_to_file workingDirectory absolute "/w//..a/./../b/"
  refine ⟨absolute, split, ?_, ?_⟩
  · rw [(below _ _ split nofun).2.2.1]
    decide +kernel
  · rw [leads]
    decide +kernel

end Checkup.Path
