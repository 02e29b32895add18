import Checkup.Proofs.Pattern.Lines

/-!
# The first match, line by line

A pattern that stays on a line, and matches on all of a line what it matches on a part of it, is
found first at the start of a line: the first line on which it matches anywhere.
-/

namespace Checkup.Pattern

open ToolOutput (RawViolation first rawViolation?)

/-- How a pattern for single lines is read: its node scans a line, what is kept on a match are the
groups of a violation, and a line that tells nothing tells nothing from any place on. -/
structure ReadsLines (node : Node) (names : List (String × Nat))
    (groups : RawViolation → Groups) (read : Bytes → Option RawViolation) : Prop where
  advances : node.Advances
  follows : Follows node fun line => (read line).map groups
  recedes : ∀ line, read line = none → ∀ count, read (line.drop count) = none
  readOff : ∀ {subject : Subject} {found : Match} {slots : List (Nat × Nat)} {start stop : Nat}
    {violation : RawViolation}, found.slots = (1, stop) :: (slots ++ [(0, start)]) →
    Captures subject slots (groups violation) →
    ∀ program, rawViolation? ⟨program, names⟩ subject found = some violation

namespace ReadsLines

variable {node : Node} {names : List (String × Nat)} {groups : RawViolation → Groups}
  {read : Bytes → Option RawViolation} (reads : ReadsLines node names groups read)
  {subject : Subject}

include reads

theorem match_none {place : Nat} (inside : place ≤ subject.size)
    (nothing : read (subject.lineAt place) = none) : node.match? subject place = none :=
  reads.follows.match_none inside (by rw [nothing]; rfl)

theorem match_some {place : Nat} (inside : place ≤ subject.size) {violation : RawViolation}
    (something : read (subject.lineAt place) = some violation) :
    ∃ found, node.match? subject place = some found ∧
      ∀ program, rawViolation? ⟨program, names⟩ subject found = some violation := by
  have scanned : (read (subject.lineAt place)).map groups = some (groups violation) := by
    rw [something]
    rfl
  obtain ⟨slots, stop, found, captured⟩ := reads.follows.match_some inside scanned
  exact ⟨_, found, reads.readOff rfl captured⟩

/-- From the start of a line on, the first match is told by the first line that tells anything. -/
theorem search_lines {start : Nat} (inside : start ≤ subject.size) :
    (search (Program.ofNode node) subject start).bind
        (rawViolation? ⟨Program.ofNode node, names⟩ subject) =
      ((subject.toList.drop start).splitOn 10).findSome? read := by
  induction remaining : subject.size - start using Nat.strongRecOn generalizing start with
  | _ remaining ih =>
    cases reading : read (subject.lineAt start) with
    | some violation =>
        obtain ⟨found, here, told⟩ := reads.match_some inside reading
        rw [search_here reads.advances inside here, Option.bind_some, told]
        rcases lines_from subject inside with ⟨-, lines⟩ | ⟨-, lines⟩ <;>
          rw [lines, List.findSome?_cons, reading]
    | none =>
        have missing : ∀ place, start ≤ place →
            place < start + (subject.lineAt start).length + 1 →
            node.match? subject place = none := by
          intro place low high
          obtain ⟨placeInside, count, left⟩ := line_at_place inside low high
          apply reads.match_none placeInside
          rw [left]
          exact reads.recedes _ reading count
        rcases lines_from subject inside with ⟨atEnd, lines⟩ | ⟨more, lines⟩
        · have nothing := search_none reads.advances inside fun place low high =>
            missing place low (by omega)
          rw [nothing, lines, List.findSome?_cons, reading]
          rfl
        · rw [search_skip reads.advances (by omega) more missing, ih _ (by omega) more rfl, lines,
            List.findSome?_cons, reading]

/-- The violation that a pattern finds first in an output. -/
theorem first_of_lines (raw : Bytes) :
    first (.ofNode node names) raw = ((raw.splitOn 10).findSome? read).toList := by
  have searched := @search_lines _ _ _ _ reads raw.toArray 0 (Nat.zero_le _)
  exact congrArg Option.toList searched

end ReadsLines

end Checkup.Pattern
