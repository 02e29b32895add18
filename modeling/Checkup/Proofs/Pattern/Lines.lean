import Checkup.Proofs.Pattern.Scan
import Checkup.Proofs.Pattern.Search
import Checkup.Proofs.Text.Separated

/-!
# Matches line by line

A pattern that begins with any stretch of a line and goes on with pieces of that line matches once
on each line on which the pieces can be found, at their latest place. All matches in an output are
therefore told by its lines, one after the other.
-/

namespace Checkup.Pattern

open ToolOutput (RawViolation anything every rawViolation? groupNames)

/-- What is read at the latest place of a line where anything is read. -/
def lastRead {Value : Type} (read : Bytes → Option Value) (line : Bytes) : Option Value :=
  latest? (fun place => read (line.drop place)) (line.length + 1)

theorem last_read_none_iff {Value : Type} {read : Bytes → Option Value} {line : Bytes} :
    lastRead read line = none ↔ ∀ place, read (line.drop place) = none := by
  unfold lastRead
  rw [latest_none_iff]
  constructor
  · intro nothing place
    by_cases within : place < line.length + 1
    · exact nothing place within
    · -- Beyond its end a line has nothing left, as at its end.
      have beyond : line.drop place = line.drop line.length := by
        rw [List.drop_length, List.drop_eq_nil_of_le (by omega)]
      rw [beyond]
      exact nothing line.length (Nat.lt_succ_self _)
  · intro nothing place _
    exact nothing place

theorem last_read_drop {Value : Type} {read : Bytes → Option Value} {line : Bytes}
    (nothing : lastRead read line = none) (count : Nat) :
    lastRead read (line.drop count) = none := by
  rw [last_read_none_iff] at nothing ⊢
  intro place
  rw [List.drop_drop]
  exact nothing _

theorem last_read_cons {Value : Type} (read : Bytes → Option Value) (byte : UInt8) (rest : Bytes) :
    lastRead read (byte :: rest) = (lastRead read rest).or (read (byte :: rest)) := by
  rw [lastRead, List.length_cons, latest_cons]
  rfl

/-- Bytes with which nothing can begin change nothing. -/
theorem last_read_pass {Value : Type} {read : Bytes → Option Value} {front : Bytes}
    (passed : ∀ byte ∈ front, ∀ rest, read (byte :: rest) = none) (text : Bytes) :
    lastRead read (front ++ text) = lastRead read text := by
  induction front with
  | nil => rfl
  | cons byte front ih =>
      have earlier := ih fun other member => passed other (List.mem_cons_of_mem _ member)
      rw [List.cons_append, last_read_cons, passed byte List.mem_cons_self, Option.or_none, earlier]

/-- What is read at the end of a line is read whatever comes before. -/
theorem last_read_behind {Value : Type} {read : Bytes → Option Value} {text : Bytes} {value : Value}
    (found : lastRead read text = some value) (front : Bytes) :
    lastRead read (front ++ text) = some value := by
  induction front with
  | nil => exact found
  | cons byte front ih => rw [List.cons_append, last_read_cons, ih, Option.some_or]

/-- What is read last on each line of a text. -/
def readLines {Value : Type} (read : Bytes → Option Value) (text : Bytes) : List Value :=
  (text.splitOn 10).filterMap (lastRead read)

section ReadLines

variable {Value : Type} {read : Bytes → Option Value}

theorem read_lines_line {line : Bytes} (clean : 10 ∉ line) :
    readLines read line = (lastRead read line).toList := by
  rw [readLines, List.splitOn_eq_singleton clean]
  cases found : lastRead read line <;> simp [found]

theorem read_lines_feed (front rest : Bytes) :
    readLines read (front ++ 10 :: rest) = readLines read front ++ readLines read rest := by
  rw [readLines, List.splitOn_append_cons_self, List.filterMap_append]
  rfl

/-- What is read is read from the rest of a line. -/
theorem read_on_line {text : Bytes} {value : Value} (found : value ∈ readLines read text) :
    ∃ rest, 10 ∉ rest ∧ read rest = some value := by
  obtain ⟨line, piece, last⟩ := List.mem_filterMap.1 found
  obtain ⟨place, -, here, -⟩ := latest_some last
  exact ⟨line.drop place, fun feed => Text.piece_whole piece (List.mem_of_mem_drop feed), here⟩

/-- Of a text in which nothing is read only the last line matters, for what comes behind it. -/
theorem read_lines_quiet {text : Bytes}
    (quiet : ∀ line, line <:+: text → lastRead read line = none) :
    ∃ last, last <:+: text ∧ 10 ∉ last ∧
      ∀ rest, readLines read (text ++ rest) = readLines read (last ++ rest) := by
  induction counted : text.length using Nat.strongRecOn generalizing text with
  | _ length ih =>
    by_cases feed : 10 ∈ text
    · obtain ⟨first, behind, split, clean⟩ := List.eq_append_cons_of_mem feed
      have inside : behind <:+: text := ⟨first ++ [10], [], by simp [split]⟩
      have shorter : behind.length < length := by rw [← counted, split]; simp; omega
      obtain ⟨last, within, lastClean, same⟩ :=
        ih behind.length shorter (fun line part => quiet line (part.trans inside)) rfl
      refine ⟨last, within.trans inside, lastClean, fun rest => ?_⟩
      have nothing : lastRead read first = none := quiet first ⟨[], 10 :: behind, by simp [split]⟩
      rw [split, List.append_assoc, List.cons_append, read_lines_feed, read_lines_line clean,
        nothing, same]
      rfl
    · exact ⟨text, List.infix_rfl, feed, fun rest => rfl⟩

end ReadLines

/-- The first group is the line of a violation, the second its message. -/
def violationGroups (violation : RawViolation) : Groups :=
  [(1, violation.line), (2, violation.message)]

/-- The slots of a match with two groups: the groups are looked up by their names, and the whole
match begins and ends where its slots say. -/
theorem captured_groups {subject : Subject} {found : Match} {slots : List (Nat × Nat)}
    {start stop : Nat} {one other : Bytes} (saved : found.slots = (1, stop) :: (slots ++ [(0, start)]))
    (captured : Captures subject slots [(1, one), (2, other)]) :
    (∀ (pattern : Pattern) (name : String),
      (pattern.names.lookup name = some 1 → pattern.group? subject found name = some one) ∧
        (pattern.names.lookup name = some 2 → pattern.group? subject found name = some other)) ∧
      found.start = start ∧ found.stop = stop := by
  obtain ⟨later, oneStart, oneStop, split, oneBytes, rest⟩ := captures_cons captured
  obtain ⟨last, otherStart, otherStop, split', otherBytes, nothing⟩ := captures_cons rest
  rw [split, split', captures_nil nothing] at saved
  obtain ⟨all⟩ := found
  simp only [List.nil_append, List.cons_append, Nat.reduceMul, Nat.reduceAdd] at saved
  subst saved
  refine ⟨fun pattern name => ⟨fun named => ?_, fun named => ?_⟩, rfl, rfl⟩
  · rw [Pattern.group?, named, ← oneBytes]
    rfl
  · rw [Pattern.group?, named, ← otherBytes]
    rfl

/-- A match of a pattern for lines is read off its groups. -/
theorem read_off_captures {subject : Subject} {found : Match} {slots : List (Nat × Nat)}
    {start stop : Nat} {violation : RawViolation}
    (saved : found.slots = (1, stop) :: (slots ++ [(0, start)]))
    (captured : Captures subject slots (violationGroups violation)) :
    (∀ program, rawViolation? ⟨program, groupNames⟩ subject found = some violation) ∧
      found.start = start ∧ found.stop = stop := by
  obtain ⟨groups, bounds⟩ := captured_groups saved captured
  refine ⟨fun program => ?_, bounds⟩
  rw [rawViolation?, (groups _ "line").1 rfl, (groups _ "message").2 rfl]
  rfl

namespace Follows

variable {subject : Subject} {node : Node} {scan : Scan} (follows : Follows node scan) {place : Nat}
  (inside : place ≤ subject.size)

include follows inside

theorem match_none (nothing : scan (subject.lineAt place) = none) :
    node.match? subject place = none := by
  have agrees := follows subject ⟨place, [(0, place)]⟩ inside
  dsimp only at agrees
  rw [nothing] at agrees
  have missing : (node.ways subject ⟨place, [(0, place)]⟩).head? = none := agrees
  rw [Node.match?, missing]
  rfl

theorem match_some {groups : Groups} (something : scan (subject.lineAt place) = some groups) :
    ∃ slots stop, node.match? subject place = some ⟨(1, stop) :: (slots ++ [(0, place)])⟩ ∧
      Captures subject slots groups := by
  have agrees := follows subject ⟨place, [(0, place)]⟩ inside
  dsimp only at agrees
  rw [something] at agrees
  obtain ⟨after, slots, head, -, saved, captured⟩ := agrees
  refine ⟨slots, after.position, ?_, captured⟩
  rw [Node.match?, head, ← saved]
  rfl

end Follows

/-- How a pattern for lines matches from a place: at the latest place of what is left of the line
where the pieces are read, up to a place behind it on the same line. -/
structure MatchesAt (node : Node) (subject : Subject) (place : Nat) (violation : RawViolation)
    (found : Match) : Prop where
  here : node.match? subject place = some found
  violation : ∀ program, rawViolation? ⟨program, groupNames⟩ subject found = some violation
  start : found.start = place
  onward : place < found.stop
  within : found.stop ≤ place + (subject.lineAt place).length

section LinePattern

variable {subject : Subject} {tail : Node} {read : Bytes → Option RawViolation}

theorem head_ways_line (way : Way) (inside : way.position ≤ subject.size) :
    ((Node.concat anything tail).ways subject way).head? =
      latest? (fun place => (tail.ways subject (way.move place)).head?)
        ((subject.lineAt way.position).length + 1) := by
  rw [head_ways_concat, ways_anything way inside, List.findSome?_map]
  rfl

/-- Behind any stretch of a line, what is read there is read at its latest place. -/
theorem follows_line (follows : Follows tail fun line => (read line).map violationGroups) :
    Follows (.concat anything tail) fun line => (lastRead read line).map violationGroups := by
  have scan : (fun line => (lastRead read line).map violationGroups) =
      Scan.anything none fun line => (read line).map violationGroups := by
    funext line
    rw [Scan.anything, lastRead, latest_map]
    simp only [map_keep_none]
  rw [scan]
  exact Follows.anything none follows

theorem match_none
    (follows : Follows tail fun line => (read line).map violationGroups) {place : Nat}
    (inside : place ≤ subject.size) (nothing : lastRead read (subject.lineAt place) = none) :
    (Node.concat anything tail).match? subject place = none :=
  (follows_line follows).match_none inside (by rw [nothing]; rfl)

theorem match_some (consumes : tail.Consumes)
    (follows : Follows tail fun line => (read line).map violationGroups) {place : Nat}
    (inside : place ≤ subject.size) {violation : RawViolation}
    (something : lastRead read (subject.lineAt place) = some violation) :
    ∃ found, MatchesAt (.concat anything tail) subject place violation found ∧
      lastRead read (subject.lineAt found.stop) = none := by
  let way : Way := ⟨place, [(0, place)]⟩
  have insideWay : way.position ≤ subject.size := inside
  obtain ⟨length, below, here, gone⟩ := latest_some something
  have agreesAt : ∀ piece, piece < (subject.lineAt place).length + 1 →
      Agrees subject way (tail.ways subject (way.move piece)).head?
        ((read ((subject.lineAt place).drop piece)).map violationGroups) := by
    intro piece small
    have agrees := follows.behind none insideWay (Nat.le_of_lt_succ small)
    rwa [map_keep_none] at agrees
  have agrees := agreesAt length below
  rw [here] at agrees
  obtain ⟨after, slots, first, bound, saved, captured⟩ := agrees
  have head : ((Node.concat anything tail).ways subject way).head? = some after := by
    rw [head_ways_line way insideWay]
    refine latest_of below first fun later above small => ?_
    have missing := agreesAt later small
    rw [gone later above small] at missing
    exact missing
  have moved : (way.move length).position ≤ subject.size := by
    have bounds := line_at_inside inside
    simp only [Way.move_position, way]
    omega
  have onward : place + length < after.position :=
    Node.ways_consume tail consumes (way.move length) after moved (List.mem_of_head? first)
  obtain ⟨read_violation, starts, stops⟩ :=
    @read_off_captures subject ⟨(1, after.position) :: after.slots⟩ slots place after.position
      violation (congrArg (List.cons _) saved) captured
  refine ⟨⟨(1, after.position) :: after.slots⟩, ⟨?_, read_violation, starts, ?_, ?_⟩, ?_⟩
  · rw [Node.match?, head]
    rfl
  · rw [stops]
    exact Nat.lt_of_le_of_lt (Nat.le_add_right _ _) onward
  · rw [stops]
    exact bound
  · rw [stops]
    -- What is left of the line lies behind the latest place where something is read.
    obtain ⟨moved, split⟩ : ∃ moved, after.position = place + moved := ⟨_, (Nat.add_sub_of_le
      (Nat.le_trans (Nat.le_add_right _ _) (Nat.le_of_lt onward))).symm⟩
    have bound' : moved ≤ (subject.lineAt place).length := by
      have high : after.position ≤ place + (subject.lineAt place).length := bound
      omega
    rw [split, line_at_move bound']
    apply latest_none_iff.2
    intro piece small
    rw [List.length_drop] at small
    rw [List.drop_drop]
    exact gone (moved + piece) (by omega) (by omega)

/-- The rest of a subject is the rest of a line and, behind a line feed, further lines. -/
theorem lines_from (subject : Subject) {place : Nat} (inside : place ≤ subject.size) :
    (place + (subject.lineAt place).length = subject.size ∧
      (subject.toList.drop place).splitOn 10 = [subject.lineAt place]) ∨
    (place + (subject.lineAt place).length < subject.size ∧
      (subject.toList.drop place).splitOn 10 = subject.lineAt place ::
        (subject.toList.drop (place + (subject.lineAt place).length + 1)).splitOn 10) := by
  have split : subject.toList.drop place = subject.lineAt place ++
      subject.toList.drop (place + (subject.lineAt place).length) := by
    rw [← List.drop_drop]
    exact (List.prefix_iff_eq_append.1 (List.takeWhile_prefix _)).symm
  have clean := line_feed_not_in_line subject place
  cases rest : subject.toList.drop (place + (subject.lineAt place).length) with
  | nil =>
      left
      rw [rest, List.append_nil] at split
      refine ⟨?_, by rw [split, List.splitOn_eq_singleton clean]⟩
      have short := List.drop_eq_nil_iff.1 rest
      have bounds := line_at_inside inside
      rw [Array.length_toList] at short
      omega
  | cons feed others =>
      right
      have short : place + (subject.lineAt place).length < subject.toList.length := by
        by_contra outside
        rw [List.drop_eq_nil_of_le (Nat.le_of_not_lt outside)] at rest
        cases rest
      have isFeed : feed = 10 := by
        by_contra other
        have longer : subject.lineAt (place + (subject.lineAt place).length) ≠ [] := by
          unfold Subject.lineAt at rest ⊢
          rw [rest, List.takeWhile_cons_of_pos (by simpa using other)]
          exact List.cons_ne_nil _ _
        rw [line_at_move (Nat.le_refl _), List.drop_length] at longer
        exact longer rfl
      have behind : subject.toList.drop (place + (subject.lineAt place).length + 1) = others := by
        rw [← List.drop_drop, rest]
        rfl
      refine ⟨by rwa [Array.length_toList] at short, ?_⟩
      rw [behind, split, rest, isFeed, List.splitOn_append_cons_self_of_not_mem clean]

theorem search_all_found {program : Program} {start : Nat} {found : Match}
    (searched : search program subject start = some found)
    (onward : start < found.stop) (within : found.stop ≤ subject.size)
    (order : found.start < found.stop) :
    searchAll program subject start = found :: searchAll program subject found.stop := by
  have next : max found.stop (found.start + 1) = found.stop := Nat.max_eq_left order
  rw [searchAll, searched]
  simp only [next]
  rw [if_pos ⟨onward, within⟩]

theorem search_all_none {program : Program} {start : Nat}
    (searched : search program subject start = none) :
    searchAll program subject start = [] := by
  rw [searchAll, searched]

theorem advances_line (advances : tail.Advances) : (Node.concat anything tail).Advances :=
  ⟨⟨⟨trivial, trivial⟩, trivial⟩, advances⟩

/-- Where a search finds a match, something is read, and the match lies behind the start. -/
theorem search_found (advances : tail.Advances) (consumes : tail.Consumes)
    (follows : Follows tail fun line => (read line).map violationGroups) {start : Nat}
    (inside : start ≤ subject.size) {found : Match}
    (searched : search (Program.ofNode (.concat anything tail)) subject start = some found) :
    start ≤ found.start ∧ found.start < found.stop ∧ found.stop ≤ subject.size := by
  rw [search_places (advances_line advances) inside] at searched
  obtain ⟨place, member, here⟩ := List.exists_of_findSome?_eq_some searched
  obtain ⟨low, high⟩ := List.mem_range'_1.1 member
  have placeInside : place ≤ subject.size := by omega
  cases reading : lastRead read (subject.lineAt place) with
  | none =>
      rw [match_none follows placeInside reading] at here
      cases here
  | some violation =>
      obtain ⟨found', matched, _⟩ := match_some consumes follows placeInside reading
      cases Option.some.inj (here.symm.trans matched.here)
      exact ⟨matched.start ▸ low, matched.start ▸ matched.onward,
        Nat.le_trans matched.within (line_at_inside placeInside)⟩

/-- Lines on which nothing is read are passed over. -/
theorem search_all_skip (advances : tail.Advances) (consumes : tail.Consumes)
    (follows : Follows tail fun line => (read line).map violationGroups) {start next : Nat}
    (order : start ≤ next) (inside : next ≤ subject.size)
    (missing : ∀ place, start ≤ place → place < next →
      (Node.concat anything tail).match? subject place = none) :
    searchAll (Program.ofNode (.concat anything tail)) subject start =
      searchAll (Program.ofNode (.concat anything tail)) subject next := by
  have skipped := search_skip (advances_line advances) order inside missing
  cases searched : search (Program.ofNode (.concat anything tail)) subject next with
  | none => rw [search_all_none searched, search_all_none (skipped.trans searched)]
  | some found =>
      obtain ⟨low, forth, within⟩ := search_found advances consumes follows inside searched
      rw [search_all_found searched (Nat.lt_of_le_of_lt low forth) within forth,
        search_all_found (skipped.trans searched)
          (Nat.lt_of_le_of_lt (Nat.le_trans order low) forth) within forth]

/-- From any place on, the matches are told by what is left of its line and the lines behind. -/
theorem all_matches_from (advances : tail.Advances) (consumes : tail.Consumes)
    (follows : Follows tail fun line => (read line).map violationGroups) {start : Nat}
    (inside : start ≤ subject.size) :
    (searchAll (Program.ofNode (.concat anything tail)) subject start).filterMap
        (rawViolation? ⟨Program.ofNode (.concat anything tail), groupNames⟩ subject) =
      ((subject.toList.drop start).splitOn 10).filterMap (lastRead read) := by
  induction remaining : subject.size - start using Nat.strongRecOn generalizing start with
  | _ remaining ih =>
    cases reading : lastRead read (subject.lineAt start) with
    | some violation =>
        obtain ⟨found, matched, exhausted⟩ := match_some consumes follows inside reading
        have stopInside : found.stop ≤ subject.size :=
          Nat.le_trans matched.within (line_at_inside inside)
        have onward := matched.onward
        have within := matched.within
        have lengths : found.stop + (subject.lineAt found.stop).length =
            start + (subject.lineAt start).length := by
          have moved := @line_at_move subject start (found.stop - start) (by omega)
          rw [Nat.add_sub_of_le (Nat.le_of_lt onward)] at moved
          rw [moved, List.length_drop]
          omega
        rw [search_all_found (search_here (advances_line advances) inside matched.here) onward
            stopInside (matched.start ▸ onward), List.filterMap_cons_some (matched.violation _),
          ih _ (by omega) stopInside rfl]
        rcases lines_from subject inside with ⟨atEnd, lines⟩ | ⟨more, lines⟩ <;>
          rcases lines_from subject stopInside with ⟨atEnd', lines'⟩ | ⟨more', lines'⟩
        · simp [lines, lines', reading, exhausted]
        · omega
        · omega
        · simp [lines, lines', reading, exhausted, lengths]
    | none =>
        have missing : ∀ place, start ≤ place →
            place < start + (subject.lineAt start).length + 1 →
            (Node.concat anything tail).match? subject place = none := by
          intro place low high
          obtain ⟨placeInside, count, left⟩ := line_at_place inside low high
          apply match_none follows placeInside
          rw [left]
          exact last_read_drop reading count
        rcases lines_from subject inside with ⟨atEnd, lines⟩ | ⟨more, lines⟩
        · have nothing := search_none (advances_line advances) inside fun place low high =>
            missing place low (by omega)
          rw [search_all_none nothing, lines]
          simp [reading]
        · rw [search_all_skip advances consumes follows (by omega) more missing,
            ih _ (by omega) more rfl, lines, List.filterMap_cons_none reading]

end LinePattern

/-- All violations that a pattern for lines finds in an output, line by line. -/
theorem every_lines {tail : Node} {read : Bytes → Option RawViolation} (advances : tail.Advances)
    (consumes : tail.Consumes)
    (follows : Follows tail fun line => (read line).map violationGroups) (raw : Bytes) :
    every (.ofNode (.concat anything tail) groupNames) raw = readLines read raw := by
  have all := @all_matches_from raw.toArray _ _ advances consumes follows 0 (Nat.zero_le _)
  exact all

end Checkup.Pattern
