import Checkup.Invocation
import Checkup.Proofs.Path.Way
import Checkup.Proofs.Text.Lossy
import Checkup.Target

/-!
# The file that a tool is asked about

A tool is told about a file by a text, the lossy reading of the normal form of its path. The text
leads to the place of the file exactly if the names that are left in the normal form are UTF-8;
a name that is not becomes another name.
-/

namespace Checkup

open Text.Utf8 (restored restored_nil restored_split restored_ascii_iff restored_eq_iff
  mem_of_mem_restored)

namespace Path

/-! ## Paths read lossily -/

theorem of_string_display (path : Path) : ofString path.display = ⟨restored path.text⟩ := by
  rw [ofString, Bytes.ofString, display, Bytes.toLossyString, String.toList_ofList]
  rfl

theorem slash_ascii : slash.toNat < 0x80 := by decide

theorem dot_ascii : dot.toNat < 0x80 := by decide

theorem split_restored (text : Bytes) :
    (restored text).splitOn slash = (text.splitOn slash).map restored := by
  have kept {piece : Bytes} (slashless : slash ∉ piece) : slash ∉ restored piece :=
    fun member => slashless (mem_of_mem_restored slash_ascii member)
  induction text using Text.split_induction slash with
  | whole text slashless =>
      rw [split_slashless (kept slashless), split_slashless slashless]
      rfl
  | split front rest slashless ih =>
      rw [restored_split slash_ascii, split_at_slash, split_at_slash,
        split_slashless (kept slashless), split_slashless slashless, ih]
      rfl

theorem restored_moves (segment : Bytes) : Moves (restored segment) ↔ Moves segment := by
  unfold Moves
  rw [ne_eq, ne_eq, restored_ascii_iff (by simp), restored_ascii_iff (by simp [dot_ascii])]

theorem restored_climbs (segment : Bytes) :
    restored segment = [dot, dot] ↔ segment = [dot, dot] :=
  restored_ascii_iff (by simp [dot_ascii])

theorem restored_steps (text : Bytes) :
    (⟨restored text⟩ : Path).steps = (⟨text⟩ : Path).steps.map restored := by
  have same : (fun piece => decide (Moves (restored piece))) = fun piece => decide (Moves piece) :=
    funext fun piece => decide_eq_decide.2 (restored_moves piece)
  rw [steps, stepsOf, split_restored, List.filter_map]
  exact congrArg (fun moving => ((text.splitOn slash).filter moving).map restored) same

theorem restored_absolute (text : Bytes) :
    (⟨restored text⟩ : Path).isAbsolute = (⟨text⟩ : Path).isAbsolute := by
  rw [Bool.eq_iff_iff]
  constructor
  · intro rooted
    obtain ⟨more, spelled⟩ := absolute_text rooted
    dsimp only at spelled
    have member : slash ∈ restored text := by
      rw [spelled]
      exact List.mem_cons_self
    obtain ⟨front, rest, rfl, slashless⟩ :=
      List.eq_append_cons_of_mem (mem_of_mem_restored slash_ascii member)
    have nothing : restored front = [] := by
      rw [restored_split slash_ascii] at spelled
      cases read : restored front with
      | nil => rfl
      | cons byte others =>
          rw [read] at spelled
          have first : byte = slash := (List.cons.inj spelled).1
          have inside : slash ∈ restored front := by
            rw [read, first]
            exact List.mem_cons_self
          exact absurd (mem_of_mem_restored slash_ascii inside) slashless
    rw [(restored_ascii_iff (by simp)).1 nothing]
    rfl
  · intro rooted
    obtain ⟨rest, spelled⟩ := absolute_text rooted
    have cut := restored_split slash_ascii [] rest
    rw [restored_nil, List.nil_append, List.nil_append] at cut
    dsimp only at spelled
    rw [spelled, cut]
    rfl

theorem restored_way (text : Bytes) :
    (⟨restored text⟩ : Path).way =
      ⟨(⟨text⟩ : Path).way.origin, (⟨text⟩ : Path).way.names.map restored⟩ := by
  have each (segments : List Bytes) (way : Way) :
      (segments.map restored).foldl Way.step ⟨way.origin, way.names.map restored⟩ =
        ⟨(segments.foldl Way.step way).origin,
          (segments.foldl Way.step way).names.map restored⟩ := by
    induction segments generalizing way with
    | nil => rfl
    | cons segment rest ih =>
        obtain ⟨origin, names⟩ := way
        rw [List.map_cons, List.foldl_cons, List.foldl_cons, ← ih]
        by_cases climbs : segment = [dot, dot]
        · rw [Way.step_up climbs, Way.step_up ((restored_climbs segment).2 climbs)]
          cases names with
          | nil => rfl
          | cons => rfl
        · rw [Way.step_down climbs,
            Way.step_down fun other => climbs ((restored_climbs segment).1 other)]
          rfl
  rw [way, origin, restored_steps, restored_absolute]
  exact each _ ⟨(⟨text⟩ : Path).origin, []⟩

theorem map_restored_iff {segments : List Bytes} :
    segments.map restored = segments ↔
      ∀ segment ∈ segments, (Text.Utf8.decode? segment).isSome := by
  have same : segments.map restored = segments ↔ ∀ segment ∈ segments, restored segment = segment := by
    simpa using List.map_inj_left (f := restored) (g := id) (l := segments)
  rw [same]
  exact forall₂_congr fun segment _ => restored_eq_iff

/-- Read lossily, a path leads to the same place exactly if the names on its way are UTF-8. -/
theorem restored_destination_iff (text : Bytes) (base : Place) :
    (⟨restored text⟩ : Path).destination base = (⟨text⟩ : Path).destination base ↔
      ∀ name ∈ (⟨text⟩ : Path).way.names, (Text.Utf8.decode? name).isSome := by
  rw [destination_way, destination_way, restored_way, Way.place, Way.place, List.append_left_inj,
    map_restored_iff]

end Path

/-! ## Tokens -/

/-- Where an analyzer puts the path among its arguments. -/
def Analyzer.tokenOf (analyzer : Analyzer) (vector : List String) : Option String :=
  match analyzer with
  | .linter | .sniffer => vector.getLast?
  | .messDetector => vector[1]?

theorem token_of_invocation (analyzer : Analyzer) (settings : Settings) (path : Path) :
    analyzer.tokenOf (analyzer.invocation settings path) = some (Analyzer.pathToken path) := by
  cases analyzer with
  | linter => simp only [Analyzer.tokenOf, Analyzer.invocation, List.getLast?_concat]
  | sniffer => simp only [Analyzer.tokenOf, Analyzer.invocation, List.getLast?_concat]
  | messDetector => rfl

theorem path_of_token (path : Path) :
    Path.ofString (Analyzer.pathToken path) = ⟨restored path.normalize.text⟩ :=
  path.normalize.of_string_display

/-- In a path that is text every name is text. -/
theorem names_of_text {path : Path} (isText : (Text.Utf8.decode? path.text).isSome)
    {name : Bytes} (member : name ∈ path.way.names) : (Text.Utf8.decode? name).isSome := by
  rcases Path.way_names_of_steps member with nothing | ⟨inPath, -⟩
  · cases nothing
  · have pieces := Path.split_restored path.text
    rw [restored_eq_iff.2 isText] at pieces
    exact Path.map_restored_iff.1 pieces.symm name (List.mem_filter.1 inPath).1

/-- The token for a file leads from any directory to the place of the file exactly if each name that
is left of its path, when `..` has taken back the others, is UTF-8; so it does for every path that
is text. -/
theorem token_leads_to_file_iff (analyzer : Analyzer) (settings : Settings) (path : Path)
    (base : Place) :
    ∃ token, analyzer.tokenOf (analyzer.invocation settings path) = some token ∧
      ((Path.ofString token).destination base = path.destination base ↔
        ∀ name ∈ path.way.names, (Text.Utf8.decode? name).isSome) ∧
      ((Text.Utf8.decode? path.text).isSome →
        (Path.ofString token).destination base = path.destination base) := by
  refine ⟨_, token_of_invocation analyzer settings path, ?_⟩
  have leads := Path.restored_destination_iff path.normalize.text base
  rw [path_of_token]
  rw [Path.destination_normalize, Path.way_normalize] at leads
  exact ⟨leads, fun isText => leads.2 fun name member => names_of_text isText member⟩

/-- A file with a name of which the first byte is no text. -/
def unreadableName : Path := ⟨0xFF :: Bytes.ofString ".php"⟩

/-- The file is checked, but the tools are asked about another one. -/
theorem unreadable_name_replaced :
    Settings.default.checks (.ofPath unreadableName Settings.defaultFallback) = true ∧
      Analyzer.linter.invocation Settings.default unreadableName =
        ["php", "-l", "-d display_errors=On", "\ufffd.php"] ∧
      unreadableName.destination [] = [0xFF :: Bytes.ofString ".php"] ∧
      (Path.ofString "\ufffd.php").destination [] = [Bytes.ofString "\ufffd.php"] ∧
      (Path.ofString "\ufffd.php").destination [] ≠ unreadableName.destination [] :=
  ⟨by decide +kernel, by decide +kernel, by decide +kernel, by decide +kernel, by decide +kernel⟩

end Checkup
