import Checkup.Proofs.Settings.Root
import Mathlib.Data.List.Find
import Mathlib.Logic.Relation

/-!
# The document that counts

The search looks at four names in each directory, from the start upwards, and stops at the first
directory that holds one. Of the documents there only the first is read. So two trees in which the
search sees the same names and the same content of that document have the same settings or the same
error, whatever lies beside the document or further out.
-/

namespace Checkup.Settings

variable {tree other : FileTree} {start : Path}

/-! ## Names and documents of a directory -/

/-- Two trees hold the same of the names that mark a directory. -/
def SameNames (tree other : FileTree) (directory : Path) : Prop :=
  ∀ name ∈ markNames, tree.holds (directory.join ⟨name⟩) = other.holds (directory.join ⟨name⟩)

/-- The documents that a directory can have, in the order in which they are tried. -/
def documents (directory : Path) : List (Path × Format) :=
  documentNames.map fun (name, format) => (directory.join (.ofString name), format)

/-- A document that is there, and none that is tried before it is. -/
structure FirstDocument (tree : FileTree) (directory document : Path) (format : Format) : Prop where
  held : tree.holds document = true
  first : ∃ before after, documents directory = before ++ (document, format) :: after ∧
    ∀ earlier ∈ before, tree.holds earlier.1 = false

def Undocumented (tree : FileTree) (directory : Path) : Prop :=
  ∀ document ∈ documents directory, tree.holds document.1 = false

theorem is_marked_iff {directory : Path} :
    isMarked tree directory = true ↔
      ∃ name ∈ markNames, tree.holds (directory.join ⟨name⟩) = true := by
  rw [is_marked_names, List.any_eq_true]

theorem SameNames.is_marked {directory : Path} (same : SameNames tree other directory) :
    isMarked tree directory = isMarked other directory := by
  rw [Bool.eq_iff_iff, is_marked_iff, is_marked_iff]
  apply exists_congr
  intro name
  apply and_congr_right
  intro member
  rw [same name member]

/-- The first document, as the search among the documents finds it. -/
def firstDocument? (tree : FileTree) (directory : Path) : Option (Path × Format) :=
  (documents directory).find? fun document => tree.holds document.1

theorem first_document_iff {directory document : Path} {format : Format} :
    firstDocument? tree directory = some (document, format) ↔
      FirstDocument tree directory document format := by
  rw [firstDocument?, List.find?_eq_some_iff_append]
  simp only [Bool.not_eq_true']
  constructor
  · rintro ⟨held, first⟩
    exact ⟨held, first⟩
  · intro first
    exact ⟨first.held, first.first⟩

theorem first_document_none_iff {directory : Path} :
    firstDocument? tree directory = none ↔ Undocumented tree directory := by
  rw [firstDocument?, List.find?_eq_none]
  simp only [Bool.not_eq_true]
  rfl

theorem SameNames.first_document {directory : Path} (same : SameNames tree other directory) :
    firstDocument? tree directory = firstDocument? other directory := by
  apply List.find?_congr
  intro document member
  obtain ⟨⟨name, format⟩, inNames, rfl⟩ := List.mem_map.1 member
  apply same
  exact List.mem_map_of_mem (List.mem_append_left _ (List.mem_map_of_mem inNames))

theorem FirstDocument.member {directory document : Path} {format : Format}
    (first : FirstDocument tree directory document format) :
    (document, format) ∈ documents directory := by
  obtain ⟨before, after, split, -⟩ := first.first
  rw [split]
  exact List.mem_append_right _ List.mem_cons_self

theorem FirstDocument.is_marked {directory document : Path} {format : Format}
    (first : FirstDocument tree directory document format) : isMarked tree directory = true := by
  obtain ⟨⟨name, _⟩, inNames, same⟩ := List.mem_map.1 first.member
  rw [is_marked_iff]
  refine ⟨_, List.mem_map_of_mem (List.mem_append_left _ (List.mem_map_of_mem inNames)), ?_⟩
  rw [← first.held]
  exact congrArg (fun document => tree.holds document.1) same

/-! ## What a document makes of the settings -/

/-- The settings of a directory, or why there are none: there is no document, or the first one is
taken, cannot be read or does not state preferences. -/
inductive Resolved (tree : FileTree) (directory : Path) (overrides : Overrides) :
    Except DocumentError Discovered → Prop
  | undocumented (missing : Undocumented tree directory) :
      Resolved tree directory overrides (.ok ⟨default.override overrides, directory, false⟩)
  | documented {document : Path} {format : Format} {text : String} {preferences : Preferences}
      (first : FirstDocument tree directory document format)
      (read : tree.readText document = .ok text)
      (stated : format.preferences? text = some preferences) :
      Resolved tree directory overrides
        (.ok ⟨(ofPreferences preferences).override overrides, directory, true⟩)
  | unreadable {document : Path} {format : Format} {cause : FileError}
      (first : FirstDocument tree directory document format)
      (failed : tree.readText document = .error cause) :
      Resolved tree directory overrides (.error (.unreadable document cause))
  | malformed {document : Path} {format : Format} {text : String}
      (first : FirstDocument tree directory document format)
      (read : tree.readText document = .ok text) (unstated : format.preferences? text = none) :
      Resolved tree directory overrides (.error (.malformed document format))

theorem load_first (tree : FileTree) (directory : Path) :
    load tree directory = match firstDocument? tree directory with
      | none => .ok none
      | some (document, format) => (readDocument tree document format).map some := rfl

theorem discover_load (tree : FileTree) (start : Option Path) (overrides : Overrides) :
    discover tree start overrides = (load tree (root tree (startPath start))).map fun preferences =>
      ⟨(ofPreferences (preferences.getD {})).override overrides, root tree (startPath start),
        preferences.isSome⟩ := rfl

/-- The settings that are found are those of the root. -/
theorem resolved_iff (tree : FileTree) (start : Option Path) (overrides : Overrides)
    (result : Except DocumentError Discovered) :
    discover tree start overrides = result ↔
      Resolved tree (root tree (startPath start)) overrides result := by
  rw [discover_load, load_first]
  constructor
  · rintro rfl
    split
    · rename_i missing
      exact .undocumented (first_document_none_iff.1 missing)
    · rename_i document format found
      have first := first_document_iff.1 found
      unfold readDocument
      split
      · exact .unreadable first ‹_›
      split
      · exact .documented first ‹_› ‹_›
      · exact .malformed first ‹_› ‹_›
  · intro resolved
    cases resolved with
    | undocumented missing => rw [first_document_none_iff.2 missing]; rfl
    | documented first read stated =>
        rw [first_document_iff.2 first]
        dsimp only
        rw [readDocument, read]
        dsimp only
        rw [stated]
        rfl
    | unreadable first failed =>
        rw [first_document_iff.2 first]
        dsimp only
        rw [readDocument, failed]
        rfl
    | malformed first read unstated =>
        rw [first_document_iff.2 first]
        dsimp only
        rw [readDocument, read]
        dsimp only
        rw [unstated]
        rfl

theorem Resolved.documented_iff {directory : Path} {overrides : Overrides} {found : Discovered}
    (resolved : Resolved tree directory overrides (.ok found)) :
    found.documented = true ↔ ∃ document ∈ documents directory, tree.holds document.1 = true := by
  cases resolved with
  | undocumented missing =>
      refine iff_of_false Bool.false_ne_true ?_
      rintro ⟨document, member, held⟩
      rw [missing document member] at held
      cases held
  | documented first read stated => exact iff_of_true rfl ⟨_, first.member, first.held⟩

/-! ## The chain of parents -/

/-- The second path is the first one or one of its lexical parents. -/
def Climbs : Path → Path → Prop :=
  Relation.ReflTransGen fun path parent => path.parent? = some parent

theorem Climbs.shorter {path above : Path} (climbs : Climbs path above) :
    above = path ∨ above.text.length < path.text.length := by
  induction climbs with
  | refl => exact .inl rfl
  | tail _ found ih =>
      right
      have shorter := Path.parent?_length found
      rcases ih with rfl | further
      · exact shorter
      · exact Nat.lt_trans shorter further

theorem Climbs.antisymm {path above : Path} (climbs : Climbs path above)
    (back : Climbs above path) : above = path := by
  rcases climbs.shorter with same | shorter
  · exact same
  · rcases back.shorter with same | further
    · exact same.symm
    · omega

theorem climbs_iff {path above : Path} :
    Climbs path above ↔ path = above ∨ ∃ parent, path.parent? = some parent ∧ Climbs parent above :=
  Relation.ReflTransGen.cases_head_iff

/-- A directory of the chain that is marked, and none on the way to it is. -/
structure FirstMarked (tree : FileTree) (path directory : Path) : Prop where
  climbs : Climbs path directory
  marked : isMarked tree directory = true
  unmarked : ∀ below, Climbs path below → Climbs below directory → below ≠ directory →
    isMarked tree below = false

theorem first_marked_here {path directory : Path} (marked : isMarked tree path = true) :
    FirstMarked tree path directory ↔ path = directory := by
  constructor
  · intro first
    by_contra other
    have unmarked := first.unmarked path .refl first.climbs other
    rw [marked] at unmarked
    cases unmarked
  · rintro rfl
    exact ⟨.refl, marked, fun below up back other => absurd (up.antisymm back) other⟩

theorem first_marked_above {path parent directory : Path}
    (unmarked : ¬ isMarked tree path = true) (found : path.parent? = some parent) :
    FirstMarked tree path directory ↔ FirstMarked tree parent directory := by
  constructor
  · rintro ⟨climbs, marked, free⟩
    rcases climbs_iff.1 climbs with rfl | ⟨next, same, further⟩
    · exact absurd marked unmarked
    · rw [found, Option.some.injEq] at same
      subst same
      exact ⟨further, marked, fun below up => free below (.head found up)⟩
  · rintro ⟨climbs, marked, free⟩
    refine ⟨.head found climbs, marked, fun below up back other => ?_⟩
    rcases climbs_iff.1 up with rfl | ⟨next, same, further⟩
    · exact Bool.eq_false_of_not_eq_true unmarked
    · rw [found, Option.some.injEq] at same
      subst same
      exact free below further back other

/-- The search ends at the first marked directory of the chain. -/
theorem nearest_iff {path directory : Path} :
    nearestMarked? tree path = some directory ↔ FirstMarked tree path directory := by
  induction path using nearestMarked?.induct tree with
  | case1 path marked =>
      rw [nearestMarked?, if_pos marked, Option.some.injEq, first_marked_here marked]
  | case2 path unmarked parent found ih =>
      rw [nearest_unmarked unmarked, found, Option.bind_some, ih,
        first_marked_above unmarked found]
  | case3 path unmarked missing =>
      rw [nearest_unmarked unmarked, missing]
      constructor
      · intro failed
        cases failed
      · rintro ⟨climbs, marked, -⟩
        rcases climbs_iff.1 climbs with rfl | ⟨next, same, -⟩
        · exact absurd marked unmarked
        · rw [missing] at same
          cases same

/-- The root is the first marked directory of the chain, or the start if there is none. -/
theorem root_cases (tree : FileTree) (start : Path) :
    FirstMarked tree start (root tree start) ∨
      nearestMarked? tree start = none ∧ root tree start = start ∧
        isMarked tree (root tree start) = false := by
  unfold root
  cases found : nearestMarked? tree start with
  | some directory => exact .inl (nearest_iff.1 found)
  | none =>
      have unmarked : ¬ isMarked tree start = true := by
        intro marked
        rw [nearest_iff.2 ((first_marked_here marked).2 rfl)] at found
        cases found
      exact .inr ⟨rfl, rfl, Bool.eq_false_of_not_eq_true unmarked⟩

theorem root_of_first_marked {directory : Path} (first : FirstMarked tree start directory) :
    root tree start = directory := by
  rw [root, nearest_iff.2 first]
  rfl

theorem FirstMarked.of_agree {directory : Path} (first : FirstMarked tree start directory)
    (agree : ∀ below, Climbs start below → Climbs below directory →
      isMarked tree below = isMarked other below) : FirstMarked other start directory where
  climbs := first.climbs
  marked := by rw [← agree directory first.climbs .refl, first.marked]
  unmarked below up back apart := by rw [← agree below up back, first.unmarked below up back apart]

/-! ## Two trees -/

/-- Two trees are alike where the search looks: in the names of each directory of the chain up to
the root, and in the content of the first document there. Where one tree has nothing marked its root
is the start itself, and the chain up to the root of the other tree counts. -/
structure SameSearch (tree other : FileTree) (start : Path) : Prop where
  names : ∀ directory, Climbs start directory → Climbs directory (root tree start) →
    SameNames tree other directory
  beyond : isMarked tree (root tree start) = false → ∀ directory, Climbs start directory →
    Climbs directory (root other start) → SameNames tree other directory
  content : ∀ document format, FirstDocument tree (root tree start) document format →
    tree.read document = other.read document

theorem SameSearch.root (same : SameSearch tree other start) :
    root tree start = root other start := by
  rcases root_cases tree start with first | ⟨nothing, own, unmarked⟩
  · apply Eq.symm
    apply root_of_first_marked
    exact first.of_agree fun directory up back => (same.names directory up back).is_marked
  · rcases root_cases other start with first | ⟨-, ownToo, -⟩
    · have here : FirstMarked tree start (Settings.root other start) :=
        first.of_agree fun directory up back =>
          (same.beyond unmarked directory up back).is_marked.symm
      rw [nearest_iff.2 here] at nothing
      cases nothing
    · rw [own, ownToo]

theorem read_document_congr {document : Path} (same : tree.read document = other.read document)
    (format : Format) : readDocument tree document format = readDocument other document format := by
  unfold readDocument FileTree.readText
  rw [same]

/-- The settings depend on the root, on which document is the first there, and on its content. -/
theorem discover_congr {start : Option Path}
    (roots : root tree (startPath start) = root other (startPath start))
    (firsts : firstDocument? tree (root tree (startPath start)) =
      firstDocument? other (root tree (startPath start)))
    (content : ∀ document format,
      FirstDocument tree (root tree (startPath start)) document format →
        tree.read document = other.read document) (overrides : Overrides) :
    discover tree start overrides = discover other start overrides := by
  have loads : load tree (root tree (startPath start)) =
      load other (root tree (startPath start)) := by
    rw [load_first, load_first, ← firsts]
    cases found : firstDocument? tree (root tree (startPath start)) with
    | none => rfl
    | some document =>
        dsimp only
        rw [read_document_congr (content _ _ (first_document_iff.1 found))]
  rw [discover_load, discover_load, ← roots, loads]

/-- The settings of a start path, or the error in their place, come from the root and from the first
document there alone. Two trees in which the search sees the same names and the same content of that
document resolve alike; and once the document is the first in both, nothing that is tried after it
and nothing further out plays a part. Whether a document was found tells whether the root holds one,
and a first document that is not usable is an error. -/
theorem only_first_document_counts (tree : FileTree) (start : Option Path)
    (overrides : Overrides) :
    let path := startPath start
    let directory := root tree path
    (∀ other, SameSearch tree other path →
      discover tree start overrides = discover other start overrides) ∧
    (∀ other document format, FirstDocument tree directory document format →
      FirstDocument other directory document format → tree.read document = other.read document →
      (∀ below, Climbs path below → Climbs below directory → below ≠ directory →
        isMarked other below = false) →
      discover tree start overrides = discover other start overrides) ∧
    (∀ result, discover tree start overrides = result ↔
      Resolved tree directory overrides result) ∧
    (∀ found, discover tree start overrides = .ok found →
      found.root = directory ∧
        (found.documented = true ↔
          ∃ document ∈ documents directory, tree.holds document.1 = true)) := by
  intro path directory
  refine ⟨fun other same => ?_, fun other document format first firstToo content free => ?_,
    resolved_iff tree start overrides, fun found discovered => ?_⟩
  · have climbs : Climbs path directory := by
      rcases root_cases tree path with found | ⟨-, own, -⟩
      · exact found.climbs
      · dsimp only [directory]
        rw [own]
        exact .refl
    exact discover_congr same.root (same.names directory climbs .refl).first_document
      same.content overrides
  · have found : FirstMarked tree path directory := by
      rcases root_cases tree path with found | ⟨-, -, unmarked⟩
      · exact found
      · rw [first.is_marked] at unmarked
        cases unmarked
    have roots := root_of_first_marked ⟨found.climbs, firstToo.is_marked, free⟩
    apply discover_congr roots.symm
    · rw [first_document_iff.2 first, first_document_iff.2 firstToo]
    · intro chosen chosenFormat firstChosen
      have same := (first_document_iff.2 first).symm.trans (first_document_iff.2 firstChosen)
      cases same
      exact content
  · exact ⟨discovered_root discovered,
      ((resolved_iff tree start overrides _).1 discovered).documented_iff⟩

/-- A project with one document. -/
def plain : FileTree :=
  { FileTree.withFile {} (placeOf ["w", "phpcheck.yaml"]) (Bytes.ofString "debug: true") false with
    workingDirectory := [] }.withDirectories (placeOf ["w", "src"])

/-- The same project, with a document beside the first one and another one further out that no one
can make sense of. -/
def crowded : FileTree :=
  (plain.withFile (placeOf ["w", "phpcheck.yml"]) (Bytes.ofString "[") false).withFile
    (placeOf ["phpcheck.toml"]) (Bytes.ofString "=") false

theorem unusable_documents_passed_over :
    FirstDocument plain (.ofString "/w") (.ofString "/w/phpcheck.yaml") .yaml ∧
      FirstDocument crowded (.ofString "/w") (.ofString "/w/phpcheck.yaml") .yaml ∧
      crowded.holds (.ofString "/w/phpcheck.yml") = true ∧
      crowded.holds (.ofString "/phpcheck.toml") = true ∧
      discover plain (some (.ofString "/w/src")) {} =
        discover crowded (some (.ofString "/w/src")) {} := by
  have above : (Path.ofString "/w/src").parent? = some (.ofString "/w") := by decide +kernel
  have first : FirstMarked plain (.ofString "/w/src") (.ofString "/w") :=
    (first_marked_above (by decide +kernel) above).2
      ((first_marked_here (by decide +kernel)).2 rfl)
  have firstToo : FirstMarked crowded (.ofString "/w/src") (.ofString "/w") :=
    (first_marked_above (by decide +kernel) above).2
      ((first_marked_here (by decide +kernel)).2 rfl)
  have document : FirstDocument plain (.ofString "/w") (.ofString "/w/phpcheck.yaml") .yaml :=
    first_document_iff.1 (by decide +kernel)
  have documentToo : FirstDocument crowded (.ofString "/w") (.ofString "/w/phpcheck.yaml") .yaml :=
    first_document_iff.1 (by decide +kernel)
  refine ⟨document, documentToo, by decide +kernel, by decide +kernel, ?_⟩
  have counts := (only_first_document_counts plain (some (.ofString "/w/src")) {}).2.1 crowded
    (.ofString "/w/phpcheck.yaml") .yaml
  rw [show root plain (startPath (some (.ofString "/w/src"))) = .ofString "/w" from
    root_of_first_marked first] at counts
  exact counts document documentToo (by decide +kernel) firstToo.unmarked

/-- A project without a document. -/
def bare : FileTree := FileTree.withDirectories {} (placeOf ["w", "src"])

/-- The same project, with a document in the directory above its sources. -/
def roofed : FileTree :=
  bare.withFile (placeOf ["w", "phpcheck.toml"]) (Bytes.ofString "debug = true\n") false

/-- The search ends at its start in the one tree and goes further in the other, though the names in
the start are the same and no document is there. -/
theorem document_above_found :
    let start := Path.ofString "/w/src"
    root bare start = start ∧
      (∀ directory, Climbs start directory → Climbs directory (root bare start) →
        SameNames bare roofed directory) ∧
      (∀ document format, FirstDocument bare (root bare start) document format →
        bare.read document = roofed.read document) ∧
      discover bare (some start) {} = .ok ⟨default.override {}, start, false⟩ ∧
      discover roofed (some start) {} =
        .ok ⟨(ofPreferences { debug := some true }).override {}, .ofString "/w", true⟩ ∧
      discover bare (some start) {} ≠ discover roofed (some start) {} := by
  intro start
  have above : start.parent? = some (.ofString "/w") := by decide +kernel
  have top : (Path.ofString "/w").parent? = some (.ofString "/") := by decide +kernel
  have nothing : nearestMarked? bare start = none := by
    rw [nearest_unmarked (by decide +kernel), above, Option.bind_some,
      nearest_unmarked (by decide +kernel), top, Option.bind_some,
      nearest_unmarked (by decide +kernel)]
    decide +kernel
  have ends : root bare start = start := by
    rw [root, nothing]
    rfl
  have goesOn : root roofed start = .ofString "/w" :=
    root_of_first_marked ((first_marked_above (by decide +kernel) above).2
      ((first_marked_here (by decide +kernel)).2 rfl))
  have missing : Undocumented bare start := by
    unfold Undocumented
    decide +kernel
  have document : FirstDocument roofed (.ofString "/w") (.ofString "/w/phpcheck.toml") .toml :=
    first_document_iff.1 (by decide +kernel)
  have here : discover bare (some start) {} = .ok ⟨default.override {}, start, false⟩ := by
    rw [resolved_iff, show root bare (startPath (some start)) = start from ends]
    exact .undocumented missing
  have further : discover roofed (some start) {} =
      .ok ⟨(ofPreferences { debug := some true }).override {}, .ofString "/w", true⟩ := by
    have read : roofed.readText (.ofString "/w/phpcheck.toml") = .ok "debug = true\n" := by
      decide +kernel
    rw [resolved_iff, show root roofed (startPath (some start)) = .ofString "/w" from goesOn]
    exact .documented document read (by decide +kernel)
  rw [ends]
  refine ⟨rfl, ?_, ?_, here, further, ?_⟩
  · intro directory climbs back
    rw [climbs.antisymm back]
    unfold SameNames
    decide +kernel
  · intro document format first
    rw [← first_document_iff, first_document_none_iff.2 missing] at first
    cases first
  · rw [here, further]
    intro same
    have found := (Discovered.mk.inj (Except.ok.inj same)).2.2
    cases found

end Checkup.Settings
