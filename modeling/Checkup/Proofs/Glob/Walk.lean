import Checkup.Proofs.Glob.Children
import Checkup.Proofs.Glob.Names
import Checkup.Proofs.Text.Lossy

/-!
# What an expansion finds

An expansion goes down a tree and takes at most two turns for a name. Whatever way of names its
segments cover, if the names lead to an entry, the path of that entry is among those found.
-/

namespace Checkup.Glob

open FileTree (follow_append_iff follow_cons_iff follow_step directory_of_follow locate_iff
  directory_of_fold holds_iff)
open Checkup.Path (IsName slash dot)
open Text.Utf8 (encode decode? decode_encode)

variable {tree : FileTree} {directory : Path} {names : List (List Char)} {place : Place}
  {entry : FileEntry} {listed : List (List Char) → Prop}

theorem encode_injective {text other : List Char} (same : encode text = encode other) :
    text = other := by
  have decoded := decode_encode text
  rw [same, decode_encode] at decoded
  exact (Option.some.inj decoded).symm

theorem name_of_proper {name : List Char} (slashless : slash ∉ encode name)
    (proper : IsProper name) : IsName (encode name) where
  slashless := slashless
  moves := by
    refine ⟨fun same => proper.1 ?_, fun same => proper.2.1 ?_⟩
    · exact @encode_injective _ [] same
    · exact @encode_injective _ ['.'] same
  descends same := proper.2.2 (@encode_injective _ ['.', '.'] same)

theorem matches_file {pieces : List Piece} {name : List Char} {path : Path}
    (matched : matchesName pieces name = true) (named : path.fileName? = some (encode name)) :
    (Segment.pieces pieces).matchesFile path = true := by
  unfold Segment.matchesFile
  rw [named, Option.bind_some, decode_encode]
  exact matched

/-! ## Names that lead to an entry -/

/-- The path below a directory that a way of names is written as. -/
def walked (directory : Path) (names : List (List Char)) : Path :=
  names.foldl (fun path name => child path (encode name)) directory

/-- Every directory on a way of names that has to be listed can be. -/
def Listable (tree : FileTree) (listed : List (List Char) → Prop) (start : Place)
    (names : List (List Char)) : Prop :=
  ∀ before rest place, names = before ++ rest → listed rest →
    (before.map encode).foldlM tree.follow start = .ok place → place ∉ tree.unreadable

theorem Listable.here {start : Place} (listable : Listable tree listed start names)
    (looked : listed names) : start ∉ tree.unreadable :=
  listable [] names start rfl looked rfl

theorem Listable.tail {name : List Char} {start next : Place}
    (listable : Listable tree listed start (name :: names))
    (followed : tree.follow start (encode name) = .ok next) : Listable tree listed next names := by
  intro before rest there split looked reached
  apply listable (name :: before) rest there (by rw [split, List.cons_append]) looked
  exact follow_cons_iff.2 ⟨next, followed, reached⟩

/-- The names lead from a directory to an entry, and there is room for its path. No name is left
out in the working directory, and what has to be listed can be. -/
structure Followed (tree : FileTree) (listed : List (List Char) → Prop) (directory : Path)
    (names : List (List Char)) (place : Place) (entry : FileEntry) : Prop where
  located : ∃ start held, tree.locate directory = .ok (start, held) ∧
    (names.map encode).foldlM tree.follow start = .ok place ∧ Listable tree listed start names
  present : tree.entry? place = some entry
  slashless : ∀ name ∈ names, slash ∉ encode name
  lead : directory.components = [.current] → (names.dropWhile (· = ['.'])).head? ≠ some []
  room : reach directory + (names.map fun name => (encode name).length + 1).sum ≤
    FileTree.maxPathLength + 1

theorem is_directory_iff {path : Path} :
    tree.isDirectory path = true ↔ ∃ place, tree.locate path = .ok (place, .directory) := by
  unfold FileTree.isDirectory
  split
  · rename_i found located
    exact ⟨fun _ => ⟨_, located⟩, fun _ => rfl⟩
  · rename_i other
    constructor
    · exact Bool.noConfusion
    · rintro ⟨found, located⟩
      exact absurd located (other found)

namespace Followed

variable {name : List Char} (followed : Followed tree listed directory (name :: names) place entry)

include followed

/-- The first name leads from a directory to an entry, from where the other names are followed. -/
theorem step :
    ∃ start next held, tree.locate directory = .ok (start, .directory) ∧
      tree.follow start (encode name) = .ok next ∧ tree.entry? next = some held ∧
        tree.locate (child directory (encode name)) = .ok (next, held) ∧
          (listed (name :: names) → start ∉ tree.unreadable) ∧
            Followed tree listed (child directory (encode name)) names place entry := by
  obtain ⟨start, kind, located, whole, listable⟩ := followed.located
  obtain ⟨next, first, rest⟩ := follow_cons_iff.1 whole
  obtain ⟨something, _, _, held⟩ := locate_iff.1 located
  rw [directory_of_follow first] at held
  cases held
  have slashless := followed.slashless name List.mem_cons_self
  have kept : ∃ held, tree.entry? next = some held := by
    cases names with
    | nil =>
        cases rest
        exact ⟨entry, followed.present⟩
    | cons second further =>
        obtain ⟨_, stepped, _⟩ := follow_cons_iff.1 rest
        exact ⟨.directory, directory_of_follow stepped⟩
  obtain ⟨held, present⟩ := kept
  have named : directory.components = [.current] → encode name ≠ [] := by
    intro current nothing
    have lead := followed.lead current
    rw [@encode_injective name [] nothing] at lead
    exact lead rfl
  have room := followed.room
  rw [List.map_cons, List.sum_cons] at room
  have length := child_length slashless something
  have below := locate_child located slashless named first present (by omega)
  refine ⟨start, next, held, located, first, present, below, listable.here,
    ⟨next, held, below, rest, listable.tail first⟩, followed.present,
    fun later member => followed.slashless later (List.mem_cons_of_mem _ member), ?_, ?_⟩
  · intro stays
    obtain ⟨current, dots⟩ := child_stays slashless something stays
    have lead := followed.lead current
    rwa [@encode_injective name ['.'] dots, List.dropWhile_cons_of_pos (by decide)] at lead
  · have reached := reach_le (child directory (encode name))
    omega

theorem is_directory : tree.isDirectory directory = true := by
  obtain ⟨start, _, _, located, _⟩ := followed.step
  exact is_directory_iff.2 ⟨start, located⟩

theorem holds_child : tree.holds (child directory (encode name)) = true := by
  obtain ⟨_, next, held, _, _, _, located, _⟩ := followed.step
  exact holds_iff.2 ⟨next, held, located⟩

theorem tail : Followed tree listed (child directory (encode name)) names place entry := by
  obtain ⟨_, _, _, _, _, _, _, _, later⟩ := followed.step
  exact later

theorem file_name (proper : IsProper name) :
    (child directory (encode name)).fileName? = some (encode name) := by
  obtain ⟨start, kind, located, _, _⟩ := followed.located
  exact child_file_name (name_of_proper (followed.slashless name List.mem_cons_self) proper)
    (locate_iff.1 located).1

theorem among (proper : IsProper name) (looked : listed (name :: names)) :
    ∃ entries, children tree directory = .ok entries ∧
      child directory (encode name) ∈ entries := by
  obtain ⟨start, next, held, located, stepped, present, _, listable, _⟩ := followed.step
  have named := name_of_proper (followed.slashless name List.mem_cons_self) proper
  rw [follow_step named.moves stepped, FileTree.stepFrom, if_neg named.descends] at present
  exact child_of_directory located (listable looked) present

end Followed

/-! ## The expansion -/

/-- An entry is visited for the sake of its own name and, by segments that descend, of the names
below it. -/
theorem walked_visit {path : Path} {name : List Char} {turns : Nat}
    (found : ∀ segments, Covers listed segments names →
      .ok (walked path names) ∈ below tree turns segments path)
    (deeper : names ≠ [] → tree.isDirectory path = true)
    (named : path.fileName? = some (encode name)) {segments : List Segment}
    (covers : Covers listed segments (name :: names)) :
    .ok (walked path names) ∈ visit tree (turns + 1) segments path := by
  rw [visit]
  have joined := covers_joined covers
  have apart := joined_apart segments
  cases split : joinDescents segments with
  | nil => rw [split] at joined; cases joined
  | cons segment rest =>
      rw [split] at joined apart
      cases joined with
      | name matched _ later =>
          dsimp only
          rw [if_pos (matches_file matched named)]
          exact found rest later
      | descend _ _ later =>
          have some : names ≠ [] := by
            rintro rfl
            exact absurd (covers_nothing later) (List.cons_ne_nil _ _)
          have inside : .ok (walked path names) ∈
              if tree.isDirectory path = true then
                below tree turns (.descend :: rest) path
              else [] := by
            rw [if_pos (deeper some)]
            exact found _ later
          dsimp only
          cases rest with
          | nil =>
              dsimp only
              rw [if_pos (deeper some)]
              exact List.mem_cons_of_mem _ inside
          | cons next further => exact List.mem_append_right _ inside
      | skip _ _ later =>
          cases later with
          | name matched _ further =>
              dsimp only
              rw [if_pos (matches_file matched named)]
              exact List.mem_append_left _ (found _ further)
          | skip => exact absurd rfl (apart _)
          | descend => exact absurd rfl (apart _)

/-- Names that some segments cover are found if they lead to an entry. -/
theorem walked_below {segments : List Segment} {turns : Nat}
    (covers : Covers listed segments names)
    (followed : Followed tree listed directory names place entry)
    (enough : 2 * names.length < turns) :
    .ok (walked directory names) ∈ below tree turns segments directory := by
  induction names generalizing directory segments turns with
  | nil =>
      cases turns with
      | zero => cases enough
      | succ turns =>
          rw [covers_nothing covers, below]
          exact List.mem_singleton_self _
  | cons name rest ih =>
      cases turns with
      | zero => cases enough
      | succ turns =>
      rw [List.length_cons] at enough
      have onward {segments : List Segment} {turns : Nat} (covers : Covers listed segments rest)
          (enough : 2 * rest.length < turns) :
          .ok (walked directory (name :: rest)) ∈
            below tree turns segments (child directory (encode name)) :=
        ih covers followed.tail enough
      cases segments with
      | nil => cases covers
      | cons segment others =>
      rw [below]
      cases literal : segment.literal? with
      | some own =>
          cases covers with
          | name matched _ later =>
              have spelled := matches_literal literal matched
              subst spelled
              dsimp only
              rw [if_pos]
              · exact onward later (by omega)
              · split
                · exact followed.is_directory
                · exact followed.holds_child
          | skip => cases literal
          | descend => cases literal
      | none =>
          have looked : IsProper name ∧ listed (name :: rest) := by
            cases covers with
            | name _ wild _ => exact wild literal
            | skip proper here _ => exact ⟨proper, here⟩
            | descend proper here _ => exact ⟨proper, here⟩
          obtain ⟨proper, here⟩ := looked
          have inside : rest ≠ [] →
              tree.isDirectory (child directory (encode name)) = true := by
            intro some
            cases rest with
            | nil => exact absurd rfl some
            | cons second further => exact followed.tail.is_directory
          obtain ⟨entries, children, among⟩ := followed.among proper here
          dsimp only
          rw [if_pos followed.is_directory, children]
          apply List.mem_append_right
          refine List.mem_flatMap.2 ⟨_, among, ?_⟩
          cases turns with
          | zero => omega
          | succ turns =>
              exact walked_visit (fun segments covers => onward covers (by omega)) inside
                (followed.file_name proper) covers

/-- The path of names that lead to an entry leads there. -/
theorem locate_walked (followed : Followed tree listed directory names place entry) :
    tree.locate (walked directory names) = .ok (place, entry) := by
  induction names generalizing directory with
  | nil =>
      obtain ⟨start, held, located, reached, -⟩ := followed.located
      cases reached
      obtain ⟨-, -, -, present⟩ := locate_iff.1 located
      rw [followed.present] at present
      cases present
      exact located
  | cons name rest ih => exact ih followed.tail

theorem walked_file_name {last : List Char}
    (followed : Followed tree listed directory names place entry)
    (ends : names.getLast? = some last) (proper : IsProper last) :
    (walked directory names).fileName? = some (encode last) := by
  induction names generalizing directory with
  | nil => cases ends
  | cons name rest ih =>
      cases rest with
      | nil =>
          cases ends
          exact followed.file_name proper
      | cons second further => exact ih followed.tail (by rwa [List.getLast?_cons_cons] at ends)

/-! ## A text as its parts -/

theorem encode_split (text : List Char) :
    (encode text).splitOn slash = (text.splitOn '/').map encode := by
  have slashless {piece : List Char} (plain : '/' ∉ piece) : slash ∉ encode piece :=
    fun member => plain (Text.Utf8.mem_of_mem_encode (by decide) member)
  induction text using Text.split_induction '/' with
  | whole text plain =>
      rw [Path.split_slashless (slashless plain), List.splitOn_eq_singleton plain]
      rfl
  | split front rest plain ih =>
      have spelled : encode (front ++ '/' :: rest) = encode front ++ slash :: encode rest :=
        Text.Utf8.encode_append front ('/' :: rest)
      rw [spelled, Path.split_at_slash, Path.split_slashless (slashless plain), ih,
        List.splitOn_append_cons_self, List.splitOn_eq_singleton plain]
      rfl

/-- Behind a segment that stays there is a directory. -/
theorem moves_to_file {segments : List Bytes} {last : Bytes} {start : Place} {content : Bytes}
    {executable : Bool} (followed : (segments ++ [last]).foldlM tree.follow start = .ok place)
    (file : tree.entry? place = some (.file content executable)) : Path.Moves last := by
  by_contra idle
  obtain ⟨above, -, behind⟩ := follow_append_iff.1 followed
  obtain ⟨stayed, stepped, same⟩ := follow_cons_iff.1 behind
  cases same
  have directory := directory_of_follow stepped
  rw [FileTree.follow_idle idle directory] at stepped
  cases stepped
  rw [file] at directory
  cases directory

/-- The path of a file ends with its name. -/
theorem last_segment_named {path : Path} {name : Bytes} {content : Bytes} {executable : Bool}
    (located : tree.locate path = .ok (place, .file content executable))
    (named : path.fileName? = some name) :
    path.segments.getLast? = some name ∧ IsName name := by
  obtain ⟨-, -, followed, file⟩ := locate_iff.1 located
  rcases List.eq_nil_or_concat path.segments with nothing | ⟨front, last, split⟩
  · exact absurd nothing (List.splitOnP_ne_nil _ _)
  rw [List.concat_eq_append] at split
  rw [split] at followed
  have moves := moves_to_file followed file
  have slashless : slash ∉ last := by
    apply Path.slashless_of_split
    rw [show path.text.splitOn slash = front ++ [last] from split]
    exact List.mem_append_right _ (List.mem_singleton_self last)
  have idle : ¬ (last = [] ∨ last = [dot]) := fun same => same.elim moves.1 moves.2
  by_cases climbs : last = [dot, dot]
  · have component : Path.componentOfSegment? last = some .parent := by
      rw [Path.componentOfSegment?, if_neg idle, if_pos climbs]
    rw [Path.fileName?, Path.components, split, List.filterMap_append,
      List.filterMap_cons_some component, List.filterMap_nil, ← List.append_assoc,
      List.getLast?_concat] at named
    cases named
  · have proper : IsName last := ⟨slashless, moves, climbs⟩
    rw [Path.file_name_of_segments proper split] at named
    cases named
    exact ⟨by rw [split, List.getLast?_concat], proper⟩

theorem absolute_text (text : String) :
    (Path.ofString text).isAbsolute = true ↔ text.toList.head? = some '/' := by
  have plain : (Path.ofString text).isAbsolute = ((encode text.toList).head? == some slash) := rfl
  rw [plain, beq_iff_eq]
  cases text.toList with
  | nil => exact iff_of_false (Option.some_ne_none _).symm (Option.some_ne_none _).symm
  | cons char rest =>
      have split : encode (char :: rest) = Text.Utf8.encodeChar char ++ encode rest :=
        List.flatMap_cons
      constructor
      · intro head
        cases bytes : Text.Utf8.encodeChar char with
        | nil =>
            rcases Text.Utf8.encode_char_cases char with ⟨-, form⟩ | ⟨-, -, form⟩ | ⟨-, -, form⟩ |
              ⟨-, form⟩ <;> rw [form] at bytes <;> cases bytes
        | cons byte more =>
            rw [split, bytes, List.cons_append, List.head?_cons, Option.some.injEq] at head
            have member : slash ∈ encode [char] := by
              rw [show encode [char] = Text.Utf8.encodeChar char from List.flatMap_singleton ..,
                bytes, head]
              exact List.mem_cons_self
            have only := @Text.Utf8.mem_of_mem_encode [char] '/' (by decide) member
            rw [List.mem_singleton.1 only]
            rfl
      · intro same
        cases same
        rfl

/-- Where the parts of a text begin. -/
def start (text : String) : Path :=
  ⟨[if text.toList.head? = some '/' then slash else dot]⟩

/-- The segments of a path are the parts of its text, behind the empty one of a leading slash. -/
theorem segments_of_parts {text : String} {name : Bytes} {content : Bytes} {executable : Bool}
    (located : tree.locate (.ofString text) = .ok (place, .file content executable))
    (named : (Path.ofString text).fileName? = some name) :
    (Path.ofString text).segments =
      (if text.toList.head? = some '/' then [[]] else []) ++ (parts text).map encode := by
  have split : (Path.ofString text).segments = (text.toList.splitOn '/').map encode :=
    encode_split text.toList
  obtain ⟨ends, proper⟩ := last_segment_named located named
  have behind {chars : List Char} (last : ((chars.splitOn '/').map encode).getLast? = some name) :
      pathSegments chars = chars.splitOn '/' := by
    apply if_neg
    intro nothing
    rw [List.getLast?_map, nothing] at last
    exact proper.moves.1 (Option.some.inj last).symm
  rw [split] at ends ⊢
  unfold parts
  cases spelled : text.toList with
  | nil =>
      rw [spelled] at ends
      cases ends
      exact absurd rfl proper.moves.1
  | cons char rest =>
      rw [spelled] at ends
      by_cases absolute : char = '/'
      · subst absolute
        have whole : ('/' :: rest).splitOn '/' = [] :: rest.splitOn '/' :=
          List.splitOn_append_cons_self [] rest
        rw [whole, List.map_cons] at ends ⊢
        have last : ((rest.splitOn '/').map encode).getLast? = some name := by
          cases others : (rest.splitOn '/').map encode with
          | nil =>
              rw [others] at ends
              cases ends
              exact absurd rfl proper.moves.1
          | cons second further => rwa [others, List.getLast?_cons_cons] at ends
        dsimp only
        rw [List.head?_cons, if_pos rfl, if_pos rfl, List.drop_one, List.tail_cons, behind last]
        rfl
      · have relative : ¬ (char :: rest).head? = some '/' := by simpa using absolute
        dsimp only
        rw [if_neg relative, if_neg relative, behind ends]
        rfl

theorem locate_start {text : String}
    (begins : tree.entry? (tree.base (.ofString text)) = some .directory) :
    tree.locate (start text) = .ok (tree.base (.ofString text), .directory) := by
  have absolute := absolute_text text
  unfold start
  split
  · rename_i leading
    rw [FileTree.base, if_pos (absolute.2 leading)] at begins ⊢
    exact locate_iff.2 ⟨List.cons_ne_nil _ _, by decide, rfl, rfl⟩
  · rename_i plain
    rw [FileTree.base, if_neg (mt absolute.1 plain)] at begins ⊢
    refine locate_iff.2 ⟨List.cons_ne_nil _ _, by decide, ?_, begins⟩
    have stays := @FileTree.follow_idle tree _ [dot] (fun moves => moves.2 rfl) begins
    exact follow_cons_iff.2 ⟨_, stays, rfl⟩

theorem reach_start (text : String) :
    reach (start text) = if text.toList.head? = some '/' then 1 else 0 := by
  unfold start
  split
  · rfl
  · rfl

/-- Every directory in which a text looks for one of its parts by listing it can be listed. -/
def CanList (tree : FileTree) (text : String) : Prop :=
  ∀ before rest place, parts text = before ++ rest → Looks before rest →
    (before.map encode).foldlM tree.follow (tree.base (.ofString text)) = .ok place →
      place ∉ tree.unreadable

/-- Where a text goes on behind a directory that it lists. -/
def LooksOn (text : String) (rest : List (List Char)) : Prop :=
  ∃ before, parts text = before ++ rest ∧ Looks before rest

theorem CanList.listable {text : String} (canList : CanList tree text) :
    Listable tree (LooksOn text) (tree.base (.ofString text)) (parts text) := by
  rintro before rest place split ⟨front, same, looks⟩ reached
  rw [split] at same
  rw [← List.append_cancel_right same] at looks
  exact canList before rest place split looks reached

theorem followed_parts {text : String} {name : Bytes} {content : Bytes} {executable : Bool}
    (located : tree.locate (.ofString text) = .ok (place, .file content executable))
    (named : (Path.ofString text).fileName? = some name)
    (lead : text.toList.head? ≠ some '/' →
      ((parts text).dropWhile (· = ['.'])).head? ≠ some []) (canList : CanList tree text) :
    Followed tree (LooksOn text) (start text) (parts text) place (.file content executable) := by
  have segments := segments_of_parts located named
  obtain ⟨something, room, followed, present⟩ := locate_iff.1 located
  have begins : tree.entry? (tree.base (.ofString text)) = some .directory := by
    cases split : (Path.ofString text).segments with
    | nil => exact absurd split (List.splitOnP_ne_nil _ _)
    | cons first rest =>
        rw [split] at followed
        obtain ⟨_, stepped, _⟩ := follow_cons_iff.1 followed
        exact directory_of_follow stepped
  have length : ((Path.ofString text).segments.map (·.length + 1)).sum =
      (Path.ofString text).text.length + 1 := Path.split_length _
  have sizes : ((parts text).map encode).map (·.length + 1) =
      (parts text).map fun name => (encode name).length + 1 := List.map_map
  rw [segments, List.map_append, List.sum_append, sizes] at length
  have whole : ((parts text).map encode).foldlM tree.follow (tree.base (.ofString text)) =
      .ok place := by
    rw [segments, follow_append_iff] at followed
    obtain ⟨next, leading, whole⟩ := followed
    have same : tree.base (.ofString text) = next := by
      split at leading
      · have stays := @FileTree.follow_idle tree _ [] (fun moves => moves.1 rfl) begins
        obtain ⟨_, stepped, ended⟩ := follow_cons_iff.1 leading
        rw [stays] at stepped
        cases stepped
        exact Except.ok.inj ended
      · exact Except.ok.inj leading
    rwa [same]
  refine ⟨⟨_, _, locate_start begins, whole, canList.listable⟩, present, ?_, ?_, ?_⟩
  · intro part member
    apply Path.slashless_of_split
    rw [show (Path.ofString text).text.splitOn slash = _ from segments]
    exact List.mem_append_right _ (List.mem_map_of_mem member)
  · intro current
    apply lead
    intro absolute
    rw [start, if_pos absolute] at current
    exact absurd current (by decide)
  · rw [reach_start]
    split
    · rename_i absolute
      rw [if_pos absolute] at length
      simp only [List.map_cons, List.map_nil, List.sum_cons, List.sum_nil, List.length_nil]
        at length
      omega
    · rename_i relative
      rw [if_neg relative] at length
      simp only [List.map_nil, List.sum_nil] at length
      omega

/-! ## Patterns that name themselves -/

theorem of_text_some {text : String} {pattern : Pattern}
    (read : Pattern.ofText? text = some pattern) :
    (parts text).mapM segment? = some pattern.segments ∧
      ⟨[if pattern.absolute then slash else dot]⟩ = start text ∧
        pattern.onlyDirectories = decide (text.toList.getLast? = some '/') := by
  unfold Pattern.ofText? at read
  obtain ⟨segments, found, same⟩ := Option.bind_eq_some_iff.1 read
  cases same
  refine ⟨?_, ?_, rfl⟩
  · rw [← found, parts]
  · simp only [start, decide_eq_true_eq]

theorem read_length {names : List (List Char)} {segments : List Segment}
    (read : names.mapM segment? = some segments) : segments.length = names.length := by
  induction names generalizing segments with
  | nil =>
      cases read
      rfl
  | cons name rest ih =>
      rw [List.mapM_cons] at read
      obtain ⟨segment, -, read⟩ := Option.bind_eq_some_iff.1 read
      obtain ⟨others, later, same⟩ := Option.bind_eq_some_iff.1 read
      cases same
      rw [List.length_cons, List.length_cons, ih later]

theorem last_part {text : String} {name : Bytes} {content : Bytes} {executable : Bool}
    (located : tree.locate (.ofString text) = .ok (place, .file content executable))
    (named : (Path.ofString text).fileName? = some name) :
    ∃ last, (parts text).getLast? = some last ∧ encode last = name ∧ IsProper last := by
  obtain ⟨ends, proper⟩ := last_segment_named located named
  rw [segments_of_parts located named] at ends
  rcases List.eq_nil_or_concat (parts text) with nothing | ⟨front, last, split⟩
  · rw [nothing] at ends
    split at ends
    · cases ends
      exact absurd rfl proper.moves.1
    · cases ends
  · rw [List.concat_eq_append] at split
    rw [split, List.map_append, ← List.append_assoc, List.map_singleton, List.getLast?_concat]
      at ends
    cases ends
    refine ⟨last, by rw [split, List.getLast?_concat], rfl, ?_, ?_, ?_⟩
    · rintro rfl
      exact proper.moves.1 rfl
    · rintro rfl
      exact proper.moves.2 rfl
    · rintro rfl
      exact proper.descends rfl

/-- A text that names itself is expanded to a path of the file that it is a path of. -/
theorem expand_itself {text : String} {pattern : Pattern}
    (read : Pattern.ofText? text = some pattern) (itself : NamesItself text)
    (canList : CanList tree text) {name : Bytes} {content : Bytes} {executable : Bool}
    (located : tree.locate (.ofString text) = .ok (place, .file content executable))
    (named : (Path.ofString text).fileName? = some name) (other : name ≠ encode stars) :
    ∃ path ∈ pattern.paths tree,
      tree.locate path = .ok (place, .file content executable) ∧ path.fileName? = some name := by
  obtain ⟨spelled, begins, onlyDirectories⟩ := of_text_some read
  obtain ⟨last, ends, rfl, proper⟩ := last_part located named
  have followed := followed_parts located named itself.lead canList
  have covers : Covers (LooksOn text) pattern.segments (parts text) := by
    apply covers_parts spelled itself.brackets itself.descents
    · rw [ends]
      exact fun same => other (congrArg encode (Option.some.inj same))
    · exact fun before rest split looks => ⟨before, split, looks⟩
  have enough : 2 * (parts text).length <
      2 * (pattern.segments.length + 1) * (tree.entries.length + 2) := by
    rw [read_length spelled]
    exact Nat.lt_of_lt_of_le (by omega) (Nat.le_mul_of_pos_right _ (by omega))
  have found := walked_below covers followed enough
  have file : pattern.onlyDirectories = false := by
    rw [onlyDirectories, decide_eq_false_iff_not]
    intro slashed
    obtain ⟨front, split⟩ := List.getLast?_eq_some_iff.1 slashed
    obtain ⟨segment, segmentProper⟩ := last_segment_named located named
    have behind : (Path.ofString text).segments = (text.toList.splitOn '/').map encode :=
      encode_split text.toList
    rw [behind, split, List.splitOn_append_cons_self, List.map_append, List.getLast?_append]
      at segment
    exact segmentProper.moves.1 (Option.some.inj segment).symm
  have expanded : .ok (walked (start text) (parts text)) ∈ pattern.expand tree := by
    unfold Pattern.expand
    dsimp only
    rw [begins]
    refine List.mem_filter.2 ⟨found, ?_⟩
    rw [file]
    rfl
  exact ⟨walked (start text) (parts text), List.mem_filterMap.2 ⟨_, expanded, rfl⟩,
    locate_walked followed, walked_file_name followed ends proper⟩

end Checkup.Glob
