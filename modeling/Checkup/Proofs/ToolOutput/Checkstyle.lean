import Checkup.Proofs.Pattern.Lines
import Checkup.Proofs.Pattern.Pieces

/-!
# Checkstyle records

On a line the pattern finds the last record, and of a record its line and its message. A report
with every record on a line of its own is therefore read completely, whatever lies around the
records. Of several records on one line only the last is found.
-/

namespace Checkup.ToolOutput.Checkstyle

open Pattern

/-! ## What the pattern reads -/

def lineKey : Bytes := Bytes.ofString "line=\""

def columnKey : Bytes := Bytes.ofString "\" column=\""

def severityKey : Bytes := Bytes.ofString "\" severity=\""

def messageKey : Bytes := Bytes.ofString "\" message=\""

def sourceKey : Bytes := Bytes.ofString "\" source"

/-- The line and the message of a record at the start of a text. -/
def readRecord? (text : Bytes) : Option RawViolation := do
  let text ← text.dropPrefix? lineKey
  let (line, text) ← run? digit text
  let text ← text.dropPrefix? columnKey
  let (_, text) ← run? digit text
  let text ← text.dropPrefix? severityKey
  let (_, text) ← run? wordByte text
  let text ← text.dropPrefix? messageKey
  let message ← beforeLast? sourceKey text
  return ⟨line, message⟩

/-- What the pattern asks for behind the first stretch of a line. -/
def recordPieces : Node :=
  .concatAll
    [exact "line=\"", .group 1 (many digit), exact "\" column=\"", many digit,
      exact "\" severity=\"", many wordByte, exact "\" message=\"", .group 2 anything,
      exact "\" source"]

theorem record_pattern :
    checkstyleRecord = .ofNode (.concat anything recordPieces) groupNames := rfl

theorem exact_advances (text : String) : (exact text).Advances := by
  apply Node.concat_all_advances
  intro node member
  obtain ⟨byte, -, rfl⟩ := List.mem_map.1 member
  trivial

theorem record_advances : recordPieces.Advances := by
  have run (set : Ranges) : (many set).Advances := ⟨trivial, trivial⟩
  have stretch : anything.Advances := ⟨⟨trivial, trivial⟩, trivial⟩
  exact ⟨exact_advances _, run _, exact_advances _, run _, exact_advances _, run _,
    exact_advances _, stretch, exact_advances _⟩

theorem record_consumes : recordPieces.Consumes := by
  have digits : (many digit).Consumes := trivial
  exact Node.concat_all_consumes (List.mem_cons_of_mem _ List.mem_cons_self) digits

def recordScan : Scan :=
  .exact lineKey (.many (some 1) digit (.exact columnKey (.many none digit (.exact severityKey
    (.many none wordByte (.exact messageKey (.anything (some 2) (.exact sourceKey .done))))))))

theorem record_scan (text : Bytes) : recordScan text = (readRecord? text).map violationGroups := by
  simp only [recordScan, scan_anything_mark, scan_many_run]
  simp only [Scan.exact, readRecord?, Option.bind_eq_bind, Option.map_eq_bind, Option.bind_assoc,
    Function.comp_def, Option.bind_some, Option.pure_def]
  rfl

theorem record_follows :
    Follows recordPieces fun line => (readRecord? line).map violationGroups := by
  have scan : (fun line => (readRecord? line).map violationGroups) = recordScan :=
    funext fun line => (record_scan line).symm
  rw [scan]
  have source : Follows (exact "\" source") (.exact sourceKey .done) :=
    Follows.last (Follows.letters (by decide) .done)
  refine Follows.letters (by decide) (.many (some 1) (by decide) ?_ ?_)
  · exact longest_exact (by decide) _ _
  refine Follows.letters (by decide) (.many none (by decide) ?_ ?_)
  · exact longest_exact (by decide) _ _
  refine Follows.letters (by decide) (.many none (by decide) ?_ ?_)
  · exact longest_exact (by decide) _ _
  exact Follows.letters (by decide) (.anything (some 2) source)

/-- The pattern finds the last record of each line. -/
theorem every_record (raw : Bytes) : every checkstyleRecord raw = readLines readRecord? raw := by
  rw [record_pattern]
  exact every_lines record_advances record_consumes record_follows raw

theorem parse_records (settings : Settings) (raw : Bytes) (fallback : String) :
    parse settings raw fallback .sniffer =
      ((readLines readRecord? raw).map (readViolation fallback)).filterMap Except.toOption := by
  rw [parse, readAll, rawViolations, every_record]

/-- The front of a record with its line, up to its message. -/
def Fronts (line front : Bytes) : Prop :=
  ∃ column severity, Run digit line ∧ Run digit column ∧ Run wordByte severity ∧
    front = lineKey ++ (line ++ (columnKey ++ (column ++ (severityKey ++
      (severity ++ messageKey)))))

theorem front_nonempty {line front : Bytes} (fronts : Fronts line front) : front ≠ [] := by
  obtain ⟨column, severity, -, -, -, rfl⟩ := fronts
  exact List.append_ne_nil_of_left_ne_nil (by decide) _

/-- Behind a front the rest decides on the message. -/
theorem read_front {line front : Bytes} (fronts : Fronts line front) (rest : Bytes) :
    readRecord? (front ++ rest) =
      (beforeLast? sourceKey rest).map fun message => ⟨line, message⟩ := by
  obtain ⟨column, severity, lineRun, columnRun, severityRun, rfl⟩ := fronts
  have lineRead (rest : Bytes) : run? digit (line ++ (columnKey ++ rest)) =
      some (line, columnKey ++ rest) := run_before lineRun (by decide) _ rest
  have columnRead (rest : Bytes) : run? digit (column ++ (severityKey ++ rest)) =
      some (column, severityKey ++ rest) := run_before columnRun (by decide) _ rest
  have severityRead (rest : Bytes) : run? wordByte (severity ++ (messageKey ++ rest)) =
      some (severity, messageKey ++ rest) := run_before severityRun (by decide) _ rest
  simp only [readRecord?, List.append_assoc, drop_prefix_append, Option.bind_eq_bind,
    Option.bind_some, lineRead, columnRead, severityRead]
  exact (Option.map_eq_bind ..).symm

theorem front_read {text : Bytes} {violation : RawViolation}
    (found : readRecord? text = some violation) :
    ∃ front rest, Fronts violation.line front ∧ text = front ++ rest ∧
      beforeLast? sourceKey rest = some violation.message := by
  simp only [readRecord?, Option.bind_eq_bind, Option.bind_eq_some_iff, drop_prefix_iff,
    Prod.exists] at found
  obtain ⟨_, rfl, line, _, lineRead, _, rfl, column, _, columnRead, _, rfl, severity, _,
    severityRead, rest, rfl, message, messageRead, same⟩ := found
  cases same
  obtain ⟨lineRun, rfl⟩ := run_sound lineRead
  obtain ⟨columnRun, rfl⟩ := run_sound columnRead
  obtain ⟨severityRun, rfl⟩ := run_sound severityRead
  refine ⟨_, rest, ⟨column, severity, lineRun, columnRun, severityRun, rfl⟩, ?_, messageRead⟩
  simp only [List.append_assoc]

/-- What is read is in the form of a record. -/
theorem record_sound {text : Bytes} {violation : RawViolation}
    (found : readRecord? text = some violation) :
    ∃ column severity rest, text = lineKey ++ (violation.line ++ (columnKey ++ (column ++
      (severityKey ++ (severity ++ (messageKey ++ (violation.message ++
        (sourceKey ++ rest)))))))) := by
  obtain ⟨front, _, fronts, split, ends⟩ := front_read found
  obtain ⟨column, severity, -, -, -, rfl⟩ := fronts
  obtain ⟨rest, rfl⟩ := before_last_sound ends
  refine ⟨column, severity, rest, ?_⟩
  rw [split]
  simp only [List.append_assoc]

theorem no_record_without_key {text : Bytes} (keyless : ¬ lineKey <+: text) :
    readRecord? text = none := by
  rw [readRecord?, (drop_prefix_none_iff _ _).2 keyless]
  rfl

/-- No record begins with another byte than its key does. -/
theorem last_record_pass {front : Bytes} (free : 0x6C ∉ front) (text : Bytes) :
    lastRead readRecord? (front ++ text) = lastRead readRecord? text := by
  apply last_read_pass
  intro byte member rest
  apply no_record_without_key
  intro begins
  have same : 0x6C = byte := (List.cons_prefix_cons.1 begins).1
  exact free (same ▸ member)

/-- A record takes eight quotes up to its source. -/
theorem no_record_few_quotes {text : Bytes} (few : text.count 0x22 < 8) :
    lastRead readRecord? text = none := by
  rw [last_read_none_iff]
  intro place
  rw [Option.eq_none_iff_forall_ne_some]
  intro violation found
  obtain ⟨column, severity, rest, split⟩ := record_sound found
  have fewer : (text.drop place).count 0x22 ≤ text.count 0x22 :=
    (List.drop_sublist place text).count_le 0x22
  have keys : lineKey.count 0x22 = 1 ∧ columnKey.count 0x22 = 2 ∧ severityKey.count 0x22 = 2 ∧
      messageKey.count 0x22 = 2 ∧ sourceKey.count 0x22 = 1 := by decide
  rw [split] at fewer
  simp only [List.count_append] at fewer
  omega

/-! ## A record and what lies around it -/

structure Record where
  line : Bytes
  column : Bytes
  severity : Bytes
  message : Bytes
  source : Bytes
  lineRun : Run digit line
  columnRun : Run digit column
  severityRun : Run wordByte severity
  messageUnquoted : 0x22 ∉ message
  messageOnLine : 10 ∉ message
  sourceUnquoted : 0x22 ∉ source
  sourceOnLine : 10 ∉ source
  sourceUnspaced : 0x20 ∉ source

namespace Record

def bytes (record : Record) : Bytes :=
  lineKey ++ (record.line ++ (columnKey ++ (record.column ++ (severityKey ++ (record.severity ++
    (messageKey ++ (record.message ++ (sourceKey ++ (Bytes.ofString "=\"" ++
      (record.source ++ [0x22]))))))))))

def found (record : Record) : RawViolation := ⟨record.line, record.message⟩

theorem bytes_on_line (record : Record) : 10 ∉ record.bytes := by
  have line : 10 ∉ record.line := record.lineRun.not_mem (by decide)
  have column : 10 ∉ record.column := record.columnRun.not_mem (by decide)
  have severity : 10 ∉ record.severity := record.severityRun.not_mem (by decide)
  have keys : 10 ∉ lineKey ∧ 10 ∉ columnKey ∧ 10 ∉ severityKey ∧ 10 ∉ messageKey ∧
      10 ∉ sourceKey ∧ 10 ∉ Bytes.ofString "=\"" := by decide
  simp [bytes, keys, line, column, severity, record.messageOnLine, record.sourceOnLine]

end Record

/-- What may come behind a record: no quote, and nothing that would prolong its message. -/
structure Behind (text : Bytes) : Prop where
  unquoted : 0x22 ∉ text
  unsourced : ¬ Bytes.ofString " source" <+: text

section Line

variable (record : Record) {behind : Bytes}

/-- Behind the message its end does not come again. -/
theorem source_once (follows : Behind behind) :
    ¬ sourceKey <:+: Bytes.ofString " source" ++
      (Bytes.ofString "=\"" ++ (record.source ++ ([0x22] ++ behind))) := by
  have key : sourceKey = 0x22 :: Bytes.ofString " source" := rfl
  have equals : Bytes.ofString "=\"" = [0x3D] ++ [0x22] := rfl
  have word : Bytes.ofString " source" = 0x20 :: Bytes.ofString "source" := rfl
  rw [key, equals, List.append_assoc, infix_pass (by decide), infix_pass (by decide),
    List.singleton_append, List.infix_cons_iff, infix_pass record.sourceUnquoted,
    List.singleton_append, List.infix_cons_iff]
  rintro (opened | closed | later)
  · have spaced := (List.cons_prefix_cons.1 opened).2
    rw [word] at spaced
    cases source : record.source with
    | nil =>
        rw [source] at spaced
        have same := (List.cons_prefix_cons.1 spaced).1
        revert same
        decide
    | cons first rest =>
        rw [source] at spaced
        have same := (List.cons_prefix_cons.1 spaced).1
        exact record.sourceUnspaced (source ▸ same ▸ List.mem_cons_self)
  · exact follows.unsourced (List.cons_prefix_cons.1 closed).2
  · exact follows.unquoted (later.mem List.mem_cons_self)

/-- A record is read whatever comes behind it. -/
theorem record_read (follows : Behind behind) :
    readRecord? (record.bytes ++ behind) = some record.found := by
  let front : Bytes := lineKey ++ (record.line ++ (columnKey ++ (record.column ++ (severityKey ++
    (record.severity ++ messageKey)))))
  have fronts : Fronts record.line front :=
    ⟨record.column, record.severity, record.lineRun, record.columnRun, record.severityRun, rfl⟩
  have message : beforeLast? sourceKey (record.message ++ (sourceKey ++ (Bytes.ofString "=\"" ++
      (record.source ++ ([0x22] ++ behind))))) = some record.message :=
    before_last_read (source_once record follows) record.message
  have text : record.bytes ++ behind = front ++ (record.message ++ (sourceKey ++
      (Bytes.ofString "=\"" ++ (record.source ++ ([0x22] ++ behind))))) := by
    simp only [Record.bytes, front, List.append_assoc]
  rw [text, read_front fronts, message]
  rfl

/-- Nothing behind the start of a record is taken for one. -/
theorem last_record_read (follows : Behind behind) :
    lastRead readRecord? (record.bytes ++ behind) = some record.found := by
  let rest : Bytes := record.column ++ (severityKey ++ (record.severity ++ (messageKey ++
    (record.message ++ (sourceKey ++ (Bytes.ofString "=\"" ++ (record.source ++
      ([0x22] ++ behind))))))))
  have text : record.bytes ++ behind = 0x6C :: (Bytes.ofString "ine=\"" ++ (record.line ++
      (Bytes.ofString "\" co" ++ (0x6C :: (Bytes.ofString "umn=\"" ++ rest))))) := by
    simp only [Record.bytes, List.append_assoc]
    rfl
  -- The quotes left behind the column's key are too few for another record.
  have few : lastRead readRecord? rest = none := by
    apply no_record_few_quotes
    have keys : severityKey.count 0x22 = 2 ∧ messageKey.count 0x22 = 2 ∧
        sourceKey.count 0x22 = 1 ∧ (Bytes.ofString "=\"").count 0x22 = 1 := by decide
    have column : 0x22 ∉ record.column := record.columnRun.not_mem (by decide)
    have severity : 0x22 ∉ record.severity := record.severityRun.not_mem (by decide)
    simp [rest, List.count_append, keys, List.count_eq_zero_of_not_mem, column, severity,
      record.messageUnquoted, record.sourceUnquoted, follows.unquoted]
  have column : lastRead readRecord? (0x6C :: (Bytes.ofString "umn=\"" ++ rest)) = none := by
    have keyless : ¬ lineKey <+: 0x6C :: (Bytes.ofString "umn=\"" ++ rest) := by
      intro begins
      have second := (List.cons_prefix_cons.1 (List.cons_prefix_cons.1 begins).2).1
      revert second
      decide
    rw [last_read_cons, last_record_pass (by decide), few, no_record_without_key keyless]
    rfl
  have digits : 0x6C ∉ record.line := record.lineRun.not_mem (by decide)
  have later : lastRead readRecord? (Bytes.ofString "ine=\"" ++ (record.line ++
      (Bytes.ofString "\" co" ++ (0x6C :: (Bytes.ofString "umn=\"" ++ rest))))) = none := by
    rw [last_record_pass (by decide), last_record_pass digits, last_record_pass (by decide), column]
  have here := record_read record follows
  rw [text] at here ⊢
  rw [last_read_cons, later, here]
  rfl

/-- So the line that ends behind a record tells that record, whatever comes before it. -/
theorem record_on_line {before : Bytes} (onLine : 10 ∉ before) (follows : Behind behind)
    (lineEnd : 10 ∉ behind) :
    readLines readRecord? (before ++ (record.bytes ++ behind)) = [record.found] := by
  have clean : 10 ∉ before ++ (record.bytes ++ behind) := by
    simp [onLine, record.bytes_on_line, lineEnd]
  rw [read_lines_line clean, last_read_behind (last_record_read record follows) before]
  rfl

end Line

theorem Behind.front {front rest : Bytes} (follows : Behind (front ++ rest)) : Behind front :=
  ⟨fun member => follows.unquoted (List.mem_append_left _ member),
    fun begins => follows.unsourced (begins.trans (List.prefix_append _ _))⟩

theorem read_lines_unquoted {text : Bytes} (unquoted : 0x22 ∉ text) :
    ∃ last, 10 ∉ last ∧ readLines readRecord? last = [] ∧
      ∀ rest, readLines readRecord? (text ++ rest) = readLines readRecord? (last ++ rest) := by
  have quiet : ∀ line, line <:+: text → lastRead readRecord? line = none := by
    intro line inside
    have missing : 0x22 ∉ line := fun member => unquoted (inside.mem member)
    exact no_record_few_quotes (by rw [List.count_eq_zero_of_not_mem missing]; decide)
  obtain ⟨last, inside, onLine, same⟩ := read_lines_quiet quiet
  refine ⟨last, onLine, ?_, same⟩
  rw [read_lines_line onLine, quiet last inside]
  rfl

/-! ## Reports of any layout -/

/-- A record with the bytes up to the next one. -/
structure Placed where
  record : Record
  behind : Bytes
  follows : Behind behind

def Placed.bytes (placed : Placed) : Bytes := placed.record.bytes ++ placed.behind

/-- Records in their order, behind bytes that hold no quote. -/
structure Layout where
  before : Bytes
  unquoted : 0x22 ∉ before
  records : List Placed

def Layout.bytes (layout : Layout) : Bytes :=
  layout.before ++ layout.records.flatMap Placed.bytes

def Layout.found (layout : Layout) : List RawViolation :=
  layout.records.map fun placed => placed.record.found

/-- The records that are the last on their line. -/
def lineEnds : List Placed → List Placed
  | [] => []
  | placed :: rest =>
    if 10 ∈ placed.behind ∨ rest.isEmpty then placed :: lineEnds rest else lineEnds rest

theorem line_ends_feed {placed : Placed} (lineEnd : 10 ∈ placed.behind) (rest : List Placed) :
    lineEnds (placed :: rest) = placed :: lineEnds rest :=
  if_pos (.inl lineEnd)

theorem line_ends_same_line {placed : Placed} (sameLine : 10 ∉ placed.behind) (next : Placed)
    (rest : List Placed) : lineEnds (placed :: next :: rest) = lineEnds (next :: rest) :=
  if_neg (by simp [sameLine])

theorem line_ends_sublist (records : List Placed) : (lineEnds records).Sublist records := by
  induction records with
  | nil => exact List.Sublist.slnil
  | cons placed rest ih =>
      unfold lineEnds
      split
      · exact ih.cons_cons placed
      · exact ih.cons placed

theorem line_ends_all_iff (records : List Placed) :
    lineEnds records = records ↔ ∀ placed ∈ records.dropLast, 10 ∈ placed.behind := by
  induction records with
  | nil => simp [lineEnds]
  | cons placed rest ih =>
      cases rest with
      | nil => simp [lineEnds]
      | cons next rest =>
          rw [List.dropLast_cons_of_ne_nil (List.cons_ne_nil _ _), List.forall_mem_cons, ← ih]
          by_cases lineEnd : 10 ∈ placed.behind
          · rw [line_ends_feed lineEnd]
            simp [lineEnd]
          · rw [line_ends_same_line lineEnd]
            constructor
            · intro all
              have fewer := (line_ends_sublist (next :: rest)).length_le
              rw [all] at fewer
              exact absurd fewer (Nat.not_succ_le_self _)
            · intro both
              exact absurd both.1 lineEnd

/-- Where a line ends behind a record, the record is found and another line begins. -/
theorem record_at_line_end {before : Bytes} (onLine : 10 ∉ before) (placed : Placed)
    (lineEnd : 10 ∈ placed.behind) :
    ∃ last, 10 ∉ last ∧ readLines readRecord? last = [] ∧
      ∀ rest, readLines readRecord? (before ++ (placed.bytes ++ rest)) =
        placed.record.found :: readLines readRecord? (last ++ rest) := by
  obtain ⟨front, back, split, clean⟩ := List.eq_append_cons_of_mem lineEnd
  have unquoted : 0x22 ∉ back := fun member =>
    placed.follows.unquoted (split ▸ List.mem_append_right _ (List.mem_cons_of_mem _ member))
  have follows : Behind front := Behind.front (split ▸ placed.follows)
  obtain ⟨last, lastOnLine, nothing, same⟩ := read_lines_unquoted unquoted
  refine ⟨last, lastOnLine, nothing, fun rest => ?_⟩
  have text : before ++ (placed.bytes ++ rest) =
      (before ++ (placed.record.bytes ++ front)) ++ 10 :: (back ++ rest) := by
    simp [Placed.bytes, split]
  rw [text, read_lines_feed, record_on_line placed.record onLine follows clean, same]
  rfl

/-- From the start of a line with a record on, the records at the ends of their lines are read. -/
theorem records_from {before : Bytes} (onLine : 10 ∉ before) (placed : Placed)
    (rest : List Placed) :
    readLines readRecord? (before ++ (placed :: rest).flatMap Placed.bytes) =
      (lineEnds (placed :: rest)).map fun placed => placed.record.found := by
  induction rest generalizing before placed with
  | nil =>
      have single : lineEnds [placed] = [placed] := if_pos (.inr rfl)
      rw [single, List.flatMap_singleton]
      by_cases lineEnd : 10 ∈ placed.behind
      · obtain ⟨last, -, nothing, step⟩ := record_at_line_end onLine placed lineEnd
        have found := step []
        rwa [List.append_nil, List.append_nil, nothing] at found
      · exact record_on_line placed.record onLine placed.follows lineEnd
  | cons next rest ih =>
      rw [List.flatMap_cons]
      by_cases lineEnd : 10 ∈ placed.behind
      · obtain ⟨last, lastOnLine, -, step⟩ := record_at_line_end onLine placed lineEnd
        rw [step, ih lastOnLine next, line_ends_feed lineEnd]
        rfl
      · have sameLine : 10 ∉ before ++ placed.bytes := by
          simp [Placed.bytes, onLine, placed.record.bytes_on_line, lineEnd]
        rw [← List.append_assoc, ih sameLine next, line_ends_same_line lineEnd]

/-- Whatever the layout, the records that are found are the last ones of their lines. -/
theorem last_records_found (layout : Layout) :
    every checkstyleRecord layout.bytes =
      (lineEnds layout.records).map fun placed => placed.record.found := by
  obtain ⟨last, onLine, nothing, same⟩ := read_lines_unquoted layout.unquoted
  rw [every_record, Layout.bytes, same]
  cases layout.records with
  | nil => rwa [List.flatMap_nil, List.append_nil]
  | cons placed rest => exact records_from onLine placed rest

/-- All records are found if and only if each of them but the last has a line feed behind it. -/
theorem every_record_found_iff (layout : Layout) :
    every checkstyleRecord layout.bytes = layout.found ↔
      ∀ placed ∈ layout.records.dropLast, 10 ∈ placed.behind := by
  rw [last_records_found, ← line_ends_all_iff]
  constructor
  · intro all
    have lengths := congrArg List.length all
    rw [Layout.found, List.length_map, List.length_map] at lengths
    exact (line_ends_sublist layout.records).eq_of_length lengths
  · intro all
    rw [all, Layout.found]

/-- Two records with no line feed between them. -/
def sharedLine : Layout where
  before := []
  unquoted := by decide
  records :=
    [⟨⟨Bytes.ofString "1", Bytes.ofString "1", Bytes.ofString "error", Bytes.ofString "a",
        Bytes.ofString "A", run_of_all (by decide) (by decide), run_of_all (by decide) (by decide),
        run_of_all (by decide) (by decide), by decide, by decide, by decide, by decide, by decide⟩,
      Bytes.ofString "/><error ", ⟨by decide, by decide⟩⟩,
    ⟨⟨Bytes.ofString "2", Bytes.ofString "1", Bytes.ofString "error", Bytes.ofString "b",
        Bytes.ofString "B", run_of_all (by decide) (by decide), run_of_all (by decide) (by decide),
        run_of_all (by decide) (by decide), by decide, by decide, by decide, by decide, by decide⟩,
      [], ⟨by decide, by decide⟩⟩]

theorem first_record_of_line_lost :
    sharedLine.bytes = Bytes.ofString
        ("line=\"1\" column=\"1\" severity=\"error\" message=\"a\" source=\"A\"/><error " ++
          "line=\"2\" column=\"1\" severity=\"error\" message=\"b\" source=\"B\"") ∧
      sharedLine.found =
        [⟨Bytes.ofString "1", Bytes.ofString "a"⟩, ⟨Bytes.ofString "2", Bytes.ofString "b"⟩] ∧
      every checkstyleRecord sharedLine.bytes = [⟨Bytes.ofString "2", Bytes.ofString "b"⟩] := by
  refine ⟨by decide +kernel, rfl, ?_⟩
  rw [last_records_found]
  rfl

end Checkup.ToolOutput.Checkstyle
