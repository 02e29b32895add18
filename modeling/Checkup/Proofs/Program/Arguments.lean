import Checkup.Proofs.Glob.Walk
import Checkup.Proofs.Program.Reports

/-!
# Files that are asked for

An argument of the command is a path, or a pattern if it has a wildcard in it. A file that is asked
for by its own path is reported on in the one case; in the other only if the pattern names the
path that it spells.
-/

namespace Checkup

open Program (expandArguments settingsFor modeFor targets reports)
open Terminal (Prompt)

/-! ## Arguments -/

/-- What one argument names, if it can be read. -/
def pathsOfArgument? (tree : FileTree) (argument : String) : Option (List Path) :=
  if Glob.isPattern argument then
    (Glob.Pattern.ofText? argument).map fun pattern => pattern.paths tree
  else some [.ofString argument]

theorem expand_cons {tree : FileTree} {argument : String} {rest : List String} {paths : List Path}
    (named : expandArguments tree (argument :: rest) = .ok paths) :
    ∃ own others, pathsOfArgument? tree argument = some own ∧
      expandArguments tree rest = .ok others ∧ paths = own ++ others := by
  rw [expandArguments] at named
  unfold pathsOfArgument?
  cases later : expandArguments tree rest with
  | error unread =>
      rw [later] at named
      split at named
      · split at named <;> cases named
      · cases named
  | ok others =>
      rw [later] at named
      split at named
      · rename_i pattern
        rw [if_pos pattern]
        cases read : Glob.Pattern.ofText? argument with
        | none =>
            rw [read] at named
            cases named
        | some pattern =>
            rw [read] at named
            cases named
            exact ⟨_, others, rfl, rfl, rfl⟩
      · rename_i plain
        rw [if_neg plain]
        cases named
        exact ⟨_, others, rfl, rfl, rfl⟩

theorem expanded_argument {tree : FileTree} {arguments : List String} {paths : List Path}
    (named : expandArguments tree arguments = .ok paths) {argument : String}
    (member : argument ∈ arguments) :
    ∃ own, pathsOfArgument? tree argument = some own ∧ ∀ path ∈ own, path ∈ paths := by
  induction arguments generalizing paths with
  | nil => cases member
  | cons first rest ih =>
      obtain ⟨own, others, read, later, rfl⟩ := expand_cons named
      rcases List.mem_cons.1 member with rfl | among
      · exact ⟨own, read, fun path inside => List.mem_append_left _ inside⟩
      · obtain ⟨found, same, inside⟩ := ih later among
        exact ⟨found, same, fun path one => List.mem_append_right _ (inside path one)⟩

theorem extension_of_name {path other : Path} (same : path.fileName? = other.fileName?) :
    path.extension? = other.extension? := by
  rw [Path.extension?, Path.extension?, same]

theorem checks_of_name {path other : Path} (same : path.fileName? = other.fileName?)
    (settings : Settings) :
    settings.checks (.ofPath path settings.fallbackEncoding) =
      settings.checks (.ofPath other settings.fallbackEncoding) := by
  have extension : (Target.ofPath path settings.fallbackEncoding).extension? =
      (Target.ofPath other settings.fallbackEncoding).extension? := extension_of_name same
  rw [Settings.checks, Settings.checks, extension]

/-- A file that is checked has a name with a suffix. -/
theorem name_of_checked {settings : Settings} {path : Path}
    (checked : settings.checks (.ofPath path settings.fallbackEncoding) = true) :
    ∃ name, path.fileName? = some name ∧ Path.suffix? name ≠ none := by
  have extension : ∃ extension, path.extension? = some extension := by
    cases found : path.extension? with
    | none =>
        have nothing : (Target.ofPath path settings.fallbackEncoding).extension? = none := found
        rw [Settings.checks, nothing] at checked
        cases checked
    | some extension => exact ⟨extension, rfl⟩
  obtain ⟨extension, found⟩ := extension
  obtain ⟨chars, decoded, -⟩ := Option.map_eq_some_iff.1 found
  obtain ⟨suffix, behind, -⟩ := Option.bind_eq_some_iff.1 decoded
  obtain ⟨name, named, split⟩ := Option.bind_eq_some_iff.1 behind
  exact ⟨name, named, by rw [split]; exact Option.some_ne_none _⟩

/-! ## Reports on what is asked for -/

/-- An argument that is a path of a file names a path of that file, the same one unless it is a
pattern. -/
theorem argument_names_file {tree : FileTree} {argument : String} {own : List Path}
    (read : pathsOfArgument? tree argument = some own) {place : Place} {content : Bytes}
    {executable : Bool}
    (located : tree.locate (.ofString argument) = .ok (place, .file content executable))
    {settings : Settings}
    (checked : settings.checks (.ofPath (.ofString argument) settings.fallbackEncoding) = true)
    (itself : Glob.isPattern argument = true →
      Glob.NamesItself argument ∧ Glob.CanList tree argument) :
    ∃ path ∈ own, tree.locate path = .ok (place, .file content executable) ∧
      settings.checks (.ofPath path settings.fallbackEncoding) = true ∧
        (Glob.isPattern argument = false → path = .ofString argument) := by
  unfold pathsOfArgument? at read
  split at read
  · rename_i isPattern
    obtain ⟨pattern, found, rfl⟩ := Option.map_eq_some_iff.1 read
    obtain ⟨name, named, suffixed⟩ := name_of_checked checked
    have other : name ≠ Text.Utf8.encode Glob.stars := by
      rintro rfl
      exact suffixed (by decide)
    obtain ⟨names, canList⟩ := itself isPattern
    obtain ⟨path, inside, there, sameName⟩ :=
      Glob.expand_itself found names canList located named other
    refine ⟨path, inside, there, ?_, fun plain => ?_⟩
    · rw [checks_of_name (sameName.trans named.symm), checked]
    · rw [isPattern] at plain
      cases plain
  · cases read
    exact ⟨_, List.mem_singleton_self _, located, checked, fun _ => rfl⟩

/-- A run prints its reports, and every argument that is a path of a file to check has one among
them if the file can be read, unless it has a wildcard and does not name itself as a pattern or
looks for a name where nothing can be listed. The report is the one on that path, or on another
path of the same file if the argument is a pattern. -/
theorem requested_files_reported (surroundings : Surroundings)
    (options : CommandLine.SniffOptions) (prompts : Nat → Prompt) (found : Settings.Discovered)
    (paths : List Path) (settled : settingsFor surroundings.tree options = .ok found)
    (named : expandArguments surroundings.tree options.paths = .ok paths)
    (saved : options.onSave = true → found.settings.runOnSave = true) :
    let outcome := Program.sniff surroundings options prompts
    let event := (modeFor options).event
    let files := reports surroundings found.settings event paths
    (targets found.settings paths = [] → outcome.output = "" ∧ outcome.exitCode = 0) ∧
    (targets found.settings paths ≠ [] →
      outcome.output = printedText (options.output.getD "human") files surroundings.color) ∧
    ∀ argument ∈ options.paths, ∀ place content executable,
      surroundings.tree.locate (.ofString argument) = .ok (place, .file content executable) →
      place ∉ surroundings.tree.unreadable →
      found.settings.checks (.ofPath (.ofString argument) found.settings.fallbackEncoding) = true →
      (Glob.isPattern argument = true →
        Glob.NamesItself argument ∧ Glob.CanList surroundings.tree argument) →
      ∃ path ∈ paths, ∃ file ∈ files,
        surroundings.fileReport? found.settings event path = some file ∧
        surroundings.tree.locate path = .ok (place, .file content executable) ∧
        (Glob.isPattern argument = false → path = .ofString argument) := by
  intro outcome event files
  obtain ⟨nothing, something⟩ := Program.sniff_run surroundings settled named saved prompts
  refine ⟨nothing, fun any => (something any).1, ?_⟩
  intro argument member place content executable located readable checked itself
  obtain ⟨own, read, inside⟩ := expanded_argument named member
  obtain ⟨path, one, there, pathChecked, same⟩ :=
    argument_names_file read located checked itself
  obtain ⟨file, reported⟩ :
      ∃ file, surroundings.fileReport? found.settings event path = some file := by
    unfold Surroundings.fileReport?
    rw [FileTree.read_of_locate there readable]
    exact ⟨_, rfl⟩
  have target : path ∈ targets found.settings paths :=
    List.mem_filter.2 ⟨inside path one, pathChecked⟩
  exact ⟨path, inside path one, file, List.mem_filterMap.2 ⟨path, target, reported⟩, reported,
    there, same⟩

/-- A repository with a file whose path is full of wildcards. Its own directory, which is the
working directory, cannot be listed. -/
def starryTree : FileTree :=
  let place : Place := [Bytes.ofString "w"]
  let repository :=
    FileTree.withFile { workingDirectory := place, unreadable := [place] }
      (Bytes.ofString ".git" :: place) [] false
  repository.withFile
    (Bytes.ofString "*[a]*.php" :: Bytes.ofString "d?" :: Bytes.ofString "s" :: place) [] false

def starryArgument : String := "s/d?/*[a]*.php"

theorem starry_parts :
    Glob.parts starryArgument = ["s".toList, "d?".toList, "*[a]*.php".toList] := by
  decide

theorem starry_names_itself : Glob.NamesItself starryArgument where
  brackets := by
    rw [starry_parts]
    intro part member bracket
    simp only [List.mem_cons, List.not_mem_nil, or_false] at member
    rcases member with rfl | rfl | rfl
    · exact absurd bracket (by decide)
    · exact absurd bracket (by decide)
    · decide +kernel
  descents := by
    rw [starry_parts]
    decide
  lead := by
    rw [starry_parts]
    decide

/-- The first name has no wildcard, so the directory that cannot be listed is not asked. -/
theorem starry_can_list : Glob.CanList starryTree starryArgument := by
  intro before rest place split looks reached
  rw [starry_parts] at split
  obtain - | ⟨first, - | ⟨second, - | ⟨third, - | _⟩⟩⟩ := before
  · cases split
    exact absurd looks (by decide)
  · cases split
    have source : [Bytes.ofString "s", Bytes.ofString "w"] = place := Except.ok.inj reached
    rw [← source]
    decide
  · cases split
    have source : [Bytes.ofString "d?", Bytes.ofString "s", Bytes.ofString "w"] = place :=
      Except.ok.inj reached
    rw [← source]
    decide
  · cases split
    exact absurd looks (by decide)
  · cases split

/-- A file whose path is full of wildcards is reported on when it is asked for by that path. -/
theorem starry_file_reported :
    let surroundings : Surroundings := ⟨starryTree, foundAnywhere, false⟩
    let options : CommandLine.SniffOptions := { paths := [starryArgument] }
    ∃ found paths, settingsFor starryTree options = .ok found ∧
      expandArguments starryTree options.paths = .ok paths ∧
      (options.onSave = true → found.settings.runOnSave = true) ∧
      Glob.isPattern starryArgument = true ∧ Glob.NamesItself starryArgument ∧
      Glob.CanList starryTree starryArgument ∧
      ∃ place content executable,
        starryTree.locate (.ofString starryArgument) = .ok (place, .file content executable) ∧
        place ∉ starryTree.unreadable ∧
        found.settings.checks
          (.ofPath (.ofString starryArgument) found.settings.fallbackEncoding) = true ∧
        ∃ path ∈ paths, ∃ file ∈ reports surroundings found.settings .explicit paths,
          surroundings.fileReport? found.settings .explicit path = some file ∧
          starryTree.locate path = .ok (place, .file content executable) := by
  intro surroundings options
  have settled : settingsFor starryTree options =
      .ok ⟨Settings.default.override (Program.sniffOverrides options false),
        Settings.startPath none, false⟩ :=
    Settings.discovered_undocumented _ (by decide +kernel) (by decide +kernel)
  have named : expandArguments starryTree options.paths = .ok [.ofString starryArgument] := by
    decide +kernel
  have checked : (Settings.default.override (Program.sniffOverrides options false)).checks
      (.ofPath (.ofString starryArgument) Settings.default.fallbackEncoding) = true := by decide +kernel
  have demanded : options.onSave = true → (Settings.default.override
      (Program.sniffOverrides options false)).runOnSave = true :=
    fun saved => absurd saved Bool.false_ne_true
  have reported := requested_files_reported surroundings options (fun _ => .unattended) _ _ settled
    named demanded
  obtain ⟨path, inside, file, among, same, located, -⟩ :=
    reported.2.2 starryArgument (List.mem_singleton_self _) _ _ _ rfl (by decide) checked
      fun _ => ⟨starry_names_itself, starry_can_list⟩
  exact ⟨_, _, settled, named, demanded, by decide, starry_names_itself, starry_can_list, _, _, _,
    rfl, by decide, checked, path, inside, file, among, same, located⟩

/-- A repository with names of wildcards in it, which is the working directory. One of its
directories cannot be listed. -/
def wildTree : FileTree :=
  let place (name : String) : Place := [Bytes.ofString name, Bytes.ofString "w"]
  let repository :=
    FileTree.withFile { workingDirectory := [Bytes.ofString "w"], unreadable := [place "d"] }
      (place ".git") [] false
  let files := (repository.withFile (place "a[1].php") [] false).withFile (place "a?.php") [] false
  (files.withDirectories (place "**")).withFile (Bytes.ofString "a?.php" :: place "d") [] false

theorem wild_settings {options : CommandLine.SniffOptions} (anywhere : options.repoRoot = none) :
    settingsFor wildTree options =
      .ok ⟨Settings.default.override (Program.sniffOverrides options (Program.attends options)),
        Settings.startPath none, false⟩ := by
  rw [settingsFor, anywhere]
  exact Settings.discovered_undocumented _ (by decide +kernel) (by decide +kernel)

/-- Brackets choose another character than those they are written with, stars stand before a step
upwards, a name is left out behind a dot, and a directory cannot be listed. -/
def passedOver : List String := ["a[1].php", "**/../a?.php", ".//a?.php", "d/a?.php"]

theorem passed_over_unmatched :
    ∀ argument ∈ passedOver, expandArguments wildTree [argument] = .ok [] := by
  decide +kernel

/-- Arguments that are paths of files and do not name themselves as patterns, or look where nothing
can be listed: none of the files is reported on, and nothing tells so. -/
theorem wild_names_passed_over :
    let surroundings : Surroundings := ⟨wildTree, foundAnywhere, false⟩
    ∀ argument ∈ passedOver,
      let options : CommandLine.SniffOptions := { paths := [argument] }
      ∃ found, settingsFor wildTree options = .ok found ∧
        (∃ place content executable,
          wildTree.locate (.ofString argument) = .ok (place, .file content executable) ∧
            place ∉ wildTree.unreadable) ∧
        found.settings.checks (.ofPath (.ofString argument) found.settings.fallbackEncoding) =
          true ∧
        expandArguments wildTree options.paths = .ok [] ∧
        (Program.sniff surroundings options).output = "" ∧
        (Program.sniff surroundings options).exitCode = 0 := by
  intro surroundings argument member options
  have settled := @wild_settings options rfl
  have unmatched : expandArguments wildTree options.paths = .ok [] :=
    passed_over_unmatched argument member
  obtain ⟨nothing, -⟩ := Program.sniff_run surroundings settled unmatched
    (fun saved => absurd saved Bool.false_ne_true) fun _ => .unattended
  have silent := And.intro unmatched (nothing rfl)
  refine ⟨_, settled, ?_⟩
  simp only [passedOver, List.mem_cons, List.not_mem_nil, or_false] at member
  rcases member with rfl | rfl | rfl | rfl
  · exact ⟨⟨_, _, _, rfl, by decide⟩, by decide +kernel, silent⟩
  · exact ⟨⟨_, _, _, rfl, by decide⟩, by decide +kernel, silent⟩
  · exact ⟨⟨_, _, _, rfl, by decide⟩, by decide +kernel, silent⟩
  · exact ⟨⟨_, _, _, rfl, by decide⟩, by decide +kernel, silent⟩

end Checkup
