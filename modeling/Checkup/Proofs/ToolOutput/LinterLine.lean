import Checkup.Proofs.Pattern.FirstLine
import Checkup.Proofs.Pattern.LastPlace
import Checkup.Proofs.ToolOutput.Reading

/-!
# The line of the linter

With its default pattern the linter's output is told by one of its lines: the first on which a
number is announced. If several are, the last of them counts and the others belong to the message.
That line decides: where its number or its message cannot be read, no other line is asked.
-/

namespace Checkup.ToolOutput.LinterLine

open Pattern

/-! ## What the default pattern asks for -/

/-- What announces the number of a line. -/
def separator : Bytes := Bytes.ofString " on line "

/-- The bytes of a text, one after the other, and a last piece behind them. -/
def spelled (text : Bytes) (last : Node) : Node :=
  text.foldr (fun byte rest => .concat (.byte (.single byte.toNat)) rest) last

def locationNode : Node :=
  .concat (.group 1 anything) (spelled separator (.group 2 (many digit)))

theorem default_pattern_reading :
    (read? Settings.defaultLinterPattern).map (fun reading => (reading.node, reading.names)) =
      some (locationNode, [("message", 1), ("line", 2)]) := by
  decide +kernel

theorem default_pattern :
    ofText? Settings.defaultLinterPattern =
      some (.ofNode locationNode [("message", 1), ("line", 2)]) := by
  obtain ⟨reading, read, same⟩ := Option.map_eq_some_iff.1 default_pattern_reading
  obtain ⟨node, names⟩ := Prod.mk.inj same
  rw [ofText?, read, Option.map_some, node, names]

theorem spelled_advances {last : Node} (advances : last.Advances) (text : Bytes) :
    (spelled text last).Advances := by
  induction text with
  | nil => exact advances
  | cons byte rest ih => exact ⟨trivial, ih⟩

theorem location_advances : locationNode.Advances := by
  have digits : (Node.group 2 (many digit)).Advances := ⟨trivial, trivial⟩
  exact ⟨⟨⟨trivial, trivial⟩, trivial⟩, spelled_advances digits separator⟩

theorem exact_cons (byte : UInt8) (text : Bytes) (next : Scan) :
    Scan.exact (byte :: text) next = Scan.exact [byte] (.exact text next) := by
  funext line
  apply Option.ext
  intro groups
  simp only [Scan.exact, Option.bind_eq_some_iff, drop_prefix_iff]
  constructor
  · rintro ⟨rest, split, found⟩
    exact ⟨text ++ rest, split, rest, rfl, found⟩
  · rintro ⟨_, split, rest, rfl, found⟩
    exact ⟨rest, split, found⟩

theorem spelled_follows {text : Bytes} (clean : 10 ∉ text) {last : Node} {next : Scan}
    (follows : Follows last next) : Follows (spelled text last) (.exact text next) := by
  induction text with
  | nil =>
      have same : Scan.exact [] next = next := by
        funext line
        rw [Scan.exact, (drop_prefix_iff line [] line).2 rfl]
        rfl
      rw [same]
      exact follows
  | cons byte rest ih =>
      have plain : (10 : UInt8) ∉ [byte] := fun member =>
        clean (List.mem_singleton.1 member ▸ List.mem_cons_self)
      rw [exact_cons]
      exact Follows.letters plain (ih fun member => clean (List.mem_cons_of_mem _ member))

/-! ## What the line tells -/

/-- A number is announced at the start of a text. -/
def Located (text : Bytes) : Prop :=
  ∃ byte rest, digit.contains (UInt8.toNat byte) = true ∧ text = separator ++ byte :: rest

/-- The violation of a number that is announced at a place of a line: all the digits there, and
what stands before the place. -/
def LocationTold (line : Bytes) (place : Nat) (violation : RawViolation) : Prop :=
  violation.message = line.take place ∧ ∃ behind, Run digit violation.line ∧
    (∀ byte, behind.head? = some byte → digit.contains byte.toNat = false) ∧
    line.drop place = separator ++ (violation.line ++ behind)

/-- The number that is announced at a place of a line, with what stands before. -/
def located? (line : Bytes) (place : Nat) : Option RawViolation := do
  let text ← (line.drop place).dropPrefix? separator
  let (digits, _) ← run? digit text
  return ⟨digits, line.take place⟩

/-- The number that is announced last on a line, with what stands before. -/
def readLocation? (line : Bytes) : Option RawViolation :=
  latest? (located? line) (line.length + 1)

theorem located_told {line : Bytes} {place : Nat} (located : Located (line.drop place)) :
    ∃ violation, LocationTold line place violation := by
  obtain ⟨byte, rest, isDigit, text⟩ := located
  obtain ⟨digits, behind, split, digitsRun, ended⟩ := run_split isDigit rest
  exact ⟨⟨digits, line.take place⟩, rfl, behind, digitsRun, ended, by rw [text, split]⟩

theorem located_of_told {line : Bytes} {place : Nat} {violation : RawViolation}
    (told : LocationTold line place violation) : Located (line.drop place) := by
  obtain ⟨-, behind, digitsRun, -, text⟩ := told
  cases digits : violation.line with
  | nil => exact absurd digits digitsRun.nonempty
  | cons byte rest =>
      rw [digits] at digitsRun text
      exact ⟨byte, rest ++ behind, digitsRun.members byte List.mem_cons_self, text⟩

theorem located_iff (line : Bytes) (place : Nat) (violation : RawViolation) :
    located? line place = some violation ↔ LocationTold line place violation := by
  constructor
  · intro found
    simp only [located?, Option.bind_eq_bind, Option.bind_eq_some_iff, drop_prefix_iff,
      Prod.exists] at found
    obtain ⟨_, text, digits, behind, digitsRead, same⟩ := found
    cases same
    obtain ⟨digitsRun, rfl, ended⟩ := run_iff.1 digitsRead
    exact ⟨rfl, behind, digitsRun, ended, text⟩
  · obtain ⟨digits, message⟩ := violation
    rintro ⟨rfl, behind, digitsRun, ended, text⟩
    rw [located?, text, drop_prefix_append]
    simp only [Option.bind_eq_bind, Option.bind_some, run_read digitsRun ended]
    rfl

theorem location_attempts : Attempts Located LocationTold located? where
  nonempty := by
    rintro ⟨byte, rest, -, split⟩
    cases split
  found line place violation := by
    rw [located_iff]
    exact ⟨fun told => ⟨located_of_told told, told⟩, And.right⟩
  something _ _ := located_told

/-! ## The pattern reads lines -/

/-- The first group is the message of a violation, the second its line. -/
def locationGroups (violation : RawViolation) : Groups :=
  [(1, violation.message), (2, violation.line)]

def locationScan : Scan :=
  .anything (some 1) (.exact separator (.many (some 2) digit .done))

theorem location_scan (line : Bytes) :
    locationScan line = (readLocation? line).map locationGroups := by
  rw [locationScan, Scan.anything, readLocation?, latest_map]
  congr 1
  funext place
  simp only [Scan.exact, scan_many_run, located?, Option.bind_eq_bind, Option.map_eq_bind,
    Option.bind_assoc, Function.comp_def, Option.bind_some, Option.pure_def]
  rfl

theorem location_follows :
    Follows locationNode fun line => (readLocation? line).map locationGroups := by
  have scan : (fun line => (readLocation? line).map locationGroups) = locationScan :=
    funext fun line => (location_scan line).symm
  rw [scan]
  have digits : Follows (.group 2 (many digit)) (.many (some 2) digit .done) := by
    -- Nothing is asked for behind the digits, so none of them is given back.
    refine Follows.last (Follows.many (some 2) (by decide) ?_ .done)
    intro back rest _ _ missing
    cases missing
  exact Follows.anything (some 1) (spelled_follows (by decide) digits)

theorem location_reads :
    ReadsLines locationNode [("message", 1), ("line", 2)] locationGroups readLocation? where
  advances := location_advances
  follows := location_follows
  recedes := by
    intro line nothing count
    rw [readLocation?, location_attempts.latest_none_iff] at nothing ⊢
    intro place
    rw [List.drop_drop]
    exact nothing _
  readOff := by
    intro subject found slots start stop violation saved captured program
    obtain ⟨groups, -⟩ := captured_groups saved captured
    rw [rawViolation?, (groups _ "line").2 rfl, (groups _ "message").1 rfl]
    rfl

theorem first_location (raw : Bytes) :
    linterViolations Settings.defaultLinterPattern raw =
      ((raw.splitOn 10).findSome? readLocation?).toList := by
  rw [linterViolations, default_pattern]
  exact location_reads.first_of_lines raw

theorem parse_location {settings : Settings}
    (pattern : settings.linterPattern = Settings.defaultLinterPattern) (raw : Bytes)
    (fallback : String) :
    parse settings raw fallback .linter =
      (((raw.splitOn 10).findSome? readLocation?).toList.map (readViolation fallback)).filterMap
        Except.toOption := by
  rw [parse, readAll, rawViolations, pattern, first_location]

/-- The violation that the default pattern finds is told by the first line that announces any. -/
theorem location_told_iff (raw : Bytes) (violations : List RawViolation) :
    linterViolations Settings.defaultLinterPattern raw = violations ↔
      ∃ told, FirstLineTells Located LocationTold (raw.splitOn 10) told ∧
        violations = told.toList := by
  simp only [first_location, location_attempts.first_line_tells_iff, exists_eq_left]
  exact eq_comm

theorem told_line_run {lines : List Bytes} {violation : RawViolation}
    (told : FirstLineTells Located LocationTold lines (some violation)) :
    Run digit violation.line := by
  obtain - | ⟨-, -, told⟩ := told
  obtain - | ⟨-, -, behind, digitsRun, -⟩ := told
  exact digitsRun

/-! ## What is reported -/

/-- What is reported of a line: its violation, unless the number fits no word or the message
cannot be decoded. -/
inductive Reported (fallback : String) : Option RawViolation → List Violation → Prop
  | nothing : Reported fallback none []
  | violation {raw : RawViolation} {message : String} (fits : decimal raw.line < wordLimit)
      (decoded : Message.decode raw.message fallback = .ok message) :
      Reported fallback (some raw) [⟨decimal raw.line, message⟩]
  | tooLarge {raw : RawViolation} (beyond : wordLimit ≤ decimal raw.line) :
      Reported fallback (some raw) []
  | undecodable {raw : RawViolation} {error : Message.DecodeError}
      (failed : Message.decode raw.message fallback = .error error) :
      Reported fallback (some raw) []

theorem Reported.unique {fallback : String} {told : Option RawViolation}
    {violations others : List Violation} (reported : Reported fallback told violations)
    (reportedToo : Reported fallback told others) : violations = others := by
  cases reported with
  | nothing =>
      cases reportedToo
      rfl
  | violation fits decoded =>
      cases reportedToo with
      | violation _ decodedToo =>
          rw [decoded] at decodedToo
          cases decodedToo
          rfl
      | tooLarge beyond => omega
      | undecodable failed =>
          rw [decoded] at failed
          cases failed
  | tooLarge beyond =>
      cases reportedToo with
      | violation fits _ => omega
      | tooLarge | undecodable => rfl
  | undecodable failed =>
      cases reportedToo with
      | violation _ decoded =>
          rw [decoded] at failed
          cases failed
      | tooLarge | undecodable => rfl

theorem reported_of_run {fallback : String} {told : Option RawViolation}
    (runs : ∀ raw, told = some raw → Run digit raw.line) :
    Reported fallback told
      ((told.toList.map (readViolation fallback)).filterMap Except.toOption) := by
  cases told with
  | none => exact .nothing
  | some raw =>
      have line := line_number_run (runs raw rfl)
      change Reported fallback (some raw)
        ([readViolation fallback raw].filterMap Except.toOption)
      by_cases fits : decimal raw.line < wordLimit
      · rw [if_pos fits] at line
        cases decoded : Message.decode raw.message fallback with
        | ok message =>
            rw [readViolation, line]
            simp only [decoded]
            exact .violation fits decoded
        | error error =>
            rw [readViolation, line]
            simp only [decoded]
            exact .undecodable decoded
      · rw [if_neg fits] at line
        rw [readViolation, line]
        exact .tooLarge (Nat.le_of_not_lt fits)

/-- With the default pattern the violations of the linter are told by the first line of its output
that announces a number, and by the last place on it that does. -/
theorem linter_told_by_first_line (settings : Settings) (raw : Bytes) (fallback : String)
    (violations : List Violation) :
    parse { settings with linterPattern := Settings.defaultLinterPattern } raw fallback .linter =
        violations ↔
      ∃ told, FirstLineTells Located LocationTold (raw.splitOn 10) told ∧
        Reported fallback told violations := by
  obtain ⟨told, tells, found⟩ := (location_told_iff raw _).1 rfl
  have runs : ∀ violation, told = some violation → Run digit violation.line :=
    fun violation same => told_line_run (same ▸ tells)
  have reported : Reported fallback told _ := reported_of_run runs
  rw [← found] at reported
  constructor
  · rintro rfl
    exact ⟨told, tells, reported⟩
  · rintro ⟨other, tellsToo, reportedToo⟩
    have same : other = told := by
      rw [location_attempts.first_line_tells_iff] at tells tellsToo
      rw [tells, tellsToo]
    exact reported.unique (same ▸ reportedToo)

end Checkup.ToolOutput.LinterLine
