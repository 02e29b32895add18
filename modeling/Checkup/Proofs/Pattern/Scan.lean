import Checkup.Proofs.Pattern.Ways
import Checkup.ToolOutput
import Mathlib.Data.List.TakeWhile

/-!
# Scanning a line

The patterns for tool output are sequences of fixed texts, runs of bytes and stretches of a line.
Such a sequence is scanned off the line itself, piece by piece and without going back: the first
way through the node and the scan of the line agree, as long as no shorter run would have done.
-/

namespace Checkup.Pattern

open ToolOutput (anything many inLine)

/-! ## The latest of several attempts -/

/-- The outcome of the latest successful attempt among those below `count`. -/
def latest? {Value : Type} (attempt : Nat → Option Value) (count : Nat) : Option Value :=
  (List.range count).reverse.findSome? attempt

section Latest

variable {Value : Type} {attempt : Nat → Option Value}

theorem latest_zero : latest? attempt 0 = none := rfl

theorem latest_succ (count : Nat) :
    latest? attempt (count + 1) = (attempt count).or (latest? attempt count) := by
  rw [latest?, List.range_succ, List.reverse_append, List.reverse_singleton,
    List.singleton_append, List.findSome?_cons]
  cases attempt count <;> rfl

theorem latest_none_iff {count : Nat} :
    latest? attempt count = none ↔ ∀ place, place < count → attempt place = none := by
  simp [latest?]

theorem latest_some {count : Nat} {value : Value} (found : latest? attempt count = some value) :
    ∃ place, place < count ∧ attempt place = some value ∧
      ∀ later, place < later → later < count → attempt later = none := by
  induction count with
  | zero => cases found
  | succ count ih =>
      rw [latest_succ] at found
      cases last : attempt count with
      | some value' =>
          rw [last, Option.some_or] at found
          exact ⟨count, Nat.lt_succ_self _, last.trans found, fun later above below => by omega⟩
      | none =>
          rw [last, Option.none_or] at found
          obtain ⟨place, small, here, gone⟩ := ih found
          refine ⟨place, Nat.lt_succ_of_lt small, here, fun later above below => ?_⟩
          rcases Nat.lt_succ_iff_lt_or_eq.1 below with inside | same
          · exact gone later above inside
          · rw [same, last]

theorem latest_of {count place : Nat} {value : Value} (small : place < count)
    (here : attempt place = some value)
    (gone : ∀ later, place < later → later < count → attempt later = none) :
    latest? attempt count = some value := by
  induction count with
  | zero => cases small
  | succ count ih =>
      rw [latest_succ]
      rcases Nat.lt_succ_iff_lt_or_eq.1 small with inside | same
      · rw [gone count inside (Nat.lt_succ_self _), Option.none_or]
        exact ih inside fun later above below => gone later above (Nat.lt_succ_of_lt below)
      · rw [← same, here, Option.some_or]

/-- The first place is the last resort. -/
theorem latest_cons (count : Nat) :
    latest? attempt (count + 1) = (latest? (fun place => attempt (place + 1)) count).or
      (attempt 0) := by
  induction count with
  | zero => rw [latest_succ, latest_zero, latest_zero, Option.or_none, Option.none_or]
  | succ count ih => rw [latest_succ, ih, latest_succ, Option.or_assoc]

theorem latest_map {Result : Type} (change : Value → Result) (count : Nat) :
    (latest? attempt count).map change =
      latest? (fun place => (attempt place).map change) count := by
  induction count with
  | zero => rfl
  | succ count ih => rw [latest_succ, latest_succ, Option.map_or, ih]

end Latest

/-! ## Lines of a subject -/

/-- What is left of a line at a place in it. -/
def Subject.lineAt (subject : Subject) (position : Nat) : Bytes :=
  (subject.toList.drop position).takeWhile (· != 10)

theorem take_while_drop {Item : Type} (keep : Item → Bool) {items : List Item} {length : Nat}
    (within : length ≤ (items.takeWhile keep).length) :
    (items.drop length).takeWhile keep = (items.takeWhile keep).drop length := by
  induction length generalizing items with
  | zero => rfl
  | succ length ih =>
      cases items with
      | nil => rfl
      | cons item rest =>
          by_cases kept : keep item = true
          · rw [List.takeWhile_cons_of_pos kept] at within ⊢
            exact ih (Nat.le_of_succ_le_succ within)
          · rw [List.takeWhile_cons_of_neg kept] at within
            cases within

section Line

variable {subject : Subject} {position length : Nat}

theorem line_at_inside (inside : position ≤ subject.size) :
    position + (subject.lineAt position).length ≤ subject.size := by
  have short : (subject.lineAt position).length ≤ subject.size - position := by
    have bound := (List.takeWhile_prefix (l := subject.toList.drop position) (· != 10)).length_le
    rwa [List.length_drop, Array.length_toList] at bound
  omega

theorem line_at_move (within : length ≤ (subject.lineAt position).length) :
    subject.lineAt (position + length) = (subject.lineAt position).drop length := by
  rw [Subject.lineAt, ← List.drop_drop]
  exact take_while_drop _ within

/-- At each place up to its end, what is left of a line is a part of it. -/
theorem line_at_place {start place : Nat} (inside : start ≤ subject.size) (low : start ≤ place)
    (high : place < start + (subject.lineAt start).length + 1) :
    place ≤ subject.size ∧ ∃ count, subject.lineAt place = (subject.lineAt start).drop count := by
  obtain ⟨count, split⟩ := Nat.exists_eq_add_of_le low
  have within : count ≤ (subject.lineAt start).length := by omega
  have bounds := line_at_inside inside
  exact ⟨by omega, count, by rw [split, line_at_move within]⟩

theorem extract_line (within : length ≤ (subject.lineAt position).length) :
    (subject.extract position (position + length)).toList =
      (subject.lineAt position).take length := by
  have split : subject.toList.drop position = subject.lineAt position ++
      (subject.toList.drop position).dropWhile (· != 10) :=
    List.takeWhile_append_dropWhile.symm
  rw [Array.toList_extract, List.extract_eq_take_drop, Nat.add_sub_cancel_left, split,
    List.take_append_of_le_length within]

theorem line_feed_not_in_line (subject : Subject) (position : Nat) :
    10 ∉ subject.lineAt position := by
  intro member
  have kept := List.all_takeWhile (p := (· != 10)) (l := subject.toList.drop position)
  have held := List.all_eq_true.1 kept 10 member
  simp at held

theorem line_at_nil (ended : subject.lineAt position = []) :
    subject[position]? = none ∨ subject[position]? = some 10 := by
  rw [← Array.getElem?_toList, ← List.head?_drop]
  unfold Subject.lineAt at ended
  cases rest : subject.toList.drop position with
  | nil => exact .inl rfl
  | cons first others =>
      rw [rest, List.takeWhile_cons] at ended
      by_cases feed : first = 10
      · exact .inr (congrArg some feed)
      · simp [feed] at ended

theorem line_at_cons {byte : UInt8} {rest : Bytes}
    (begins : subject.lineAt position = byte :: rest) :
    subject[position]? = some byte ∧ subject.lineAt (position + 1) = rest := by
  have first : (subject.toList.drop position).head? = some byte := by
    have filtered := List.head?_takeWhile (p := (· != 10)) (l := subject.toList.drop position)
    unfold Subject.lineAt at begins
    rw [begins] at filtered
    exact (Option.filter_eq_some_iff.1 filtered.symm).1
  refine ⟨?_, ?_⟩
  · rw [← Array.getElem?_toList, ← List.head?_drop, first]
  · have within : 1 ≤ (subject.lineAt position).length := by simp [begins]
    rw [line_at_move within, begins]
    rfl

end Line

/-! ## Runs of bytes -/

section Runs

variable {subject : Subject} {set : Ranges}

/-- The front of a text that is made of bytes of a set. -/
def front (set : Ranges) (text : Bytes) : Bytes :=
  text.takeWhile fun byte => set.contains byte.toNat

theorem ways_byte_nil (plain : set.contains 10 = false) {way : Way}
    (ended : subject.lineAt way.position = []) : (Node.byte set).ways subject way = [] := by
  rcases line_at_nil ended with missing | feed
  · simp [Node.ways, missing]
  · simp [Node.ways, feed, plain]

theorem ways_byte_cons {way : Way} {byte : UInt8} {rest : Bytes}
    (begins : subject.lineAt way.position = byte :: rest) :
    (Node.byte set).ways subject way =
      if set.contains byte.toNat then [way.move 1] else [] := by
  simp [Node.ways, (line_at_cons begins).1]

theorem range_reverse_shift (way : Way) (count : Nat) :
    (List.range count).reverse.map (fun place => (way.move 1).move (place + 1)) ++ [way.move 1] =
      (List.range (count + 1)).reverse.map fun place => way.move (place + 1) := by
  rw [List.range_succ_eq_map, List.reverse_cons, List.map_append, ← List.map_reverse,
    List.map_map]
  simp [Function.comp_def, Nat.add_comm 1]

/-- A greedy run of bytes gives way byte by byte, from the longest front down to one byte. -/
theorem ways_many (plain : set.contains 10 = false) (way : Way)
    (inside : way.position ≤ subject.size) :
    (many set).ways subject way =
      (List.range (front set (subject.lineAt way.position)).length).reverse.map
        fun place => way.move (place + 1) := by
  have consumes : (Node.byte set).Consumes := trivial
  induction line : subject.lineAt way.position generalizing way with
  | nil =>
      rw [many, Node.ways_plus consumes way inside, ways_byte_nil plain line]
      rfl
  | cons byte rest ih =>
      have later := (line_at_cons line).2
      rw [many, Node.ways_plus consumes way inside, ways_byte_cons line, front,
        List.takeWhile_cons]
      by_cases member : set.contains byte.toNat = true
      · have next : (way.move 1).position ≤ subject.size := by
          have bounds := line_at_inside inside
          rw [line, List.length_cons] at bounds
          simp only [Way.move_position]
          omega
        have turned := ih (way.move 1) next later
        rw [if_pos member, if_pos member, List.flatMap_singleton, if_pos rfl]
        exact (congrArg (· ++ [way.move 1]) turned).trans (range_reverse_shift way _)
      · simp [member]

theorem front_in_line {line : Bytes} (clean : 10 ∉ line) : front inLine line = line := by
  apply List.takeWhile_eq_self_iff.2
  intro byte member
  have other : byte ≠ 10 := fun feed => clean (feed ▸ member)
  have value : byte.toNat ≠ 10 := fun same => other (UInt8.toNat.inj same)
  have bound := byte.toNat_lt
  simp [Ranges.contains, inLine]
  omega

/-- A stretch of a line gives way byte by byte, from the whole line down to nothing. -/
theorem ways_anything (way : Way) (inside : way.position ≤ subject.size) :
    anything.ways subject way =
      (List.range ((subject.lineAt way.position).length + 1)).reverse.map way.move := by
  have turns := @ways_many subject inLine (by decide) way inside
  rw [front_in_line (line_feed_not_in_line subject way.position)] at turns
  have unfolded : anything.ways subject way = (many inLine).ways subject way ++ [way] := rfl
  rw [unfolded, turns, List.range_succ_eq_map, List.reverse_cons, List.map_append,
    ← List.map_reverse, List.map_map]
  rfl

/-- The steps of a fixed text, byte by byte. -/
def letters (text : Bytes) : Node :=
  .concatAll (text.map fun byte => .byte (.single byte.toNat))

theorem ways_concat_all_cons (node : Node) (rest : List Node) (way : Way) :
    (Node.concatAll (node :: rest)).ways subject way =
      (node.ways subject way).flatMap ((Node.concatAll rest).ways subject) := by
  cases rest with
  | nil =>
      have single : (Node.concatAll []).ways subject = fun after => [after] := rfl
      rw [single, List.flatMap_singleton']
      rfl
  | cons => rfl

theorem single_contains_iff (byte other : UInt8) :
    (Ranges.single byte.toNat).contains other.toNat = true ↔ other = byte := by
  rw [← UInt8.toNat_inj]
  simp [Ranges.contains, Ranges.single]
  omega

theorem ways_letters {text : Bytes} (clean : 10 ∉ text) (way : Way) :
    (letters text).ways subject way =
      if text <+: subject.lineAt way.position then [way.move text.length] else [] := by
  induction text generalizing way with
  | nil => simp [letters, Node.concatAll, Node.ways, Way.move_zero]
  | cons letter text ih =>
      have plain : letter ≠ 10 := fun feed => clean (feed ▸ List.mem_cons_self)
      have cleanRest : 10 ∉ text := fun member => clean (List.mem_cons_of_mem _ member)
      have split : (letters (letter :: text)).ways subject way =
          ((Node.byte (.single letter.toNat)).ways subject way).flatMap
            ((letters text).ways subject) := ways_concat_all_cons _ _ way
      rw [split]
      cases line : subject.lineAt way.position with
      | nil =>
          have feedless : (Ranges.single letter.toNat).contains 10 = false := by
            rw [Bool.eq_false_iff]
            exact fun member => plain ((single_contains_iff letter 10).1 member).symm
          rw [ways_byte_nil feedless line]
          simp
      | cons byte rest =>
          rw [ways_byte_cons line]
          by_cases same : byte = letter
          · have later := (line_at_cons line).2
            rw [if_pos ((single_contains_iff letter byte).2 same), List.flatMap_singleton,
              ih cleanRest, Way.move_position, later]
            simp [same, List.cons_prefix_cons, Nat.add_comm 1]
          · rw [if_neg (fun member => same ((single_contains_iff letter byte).1 member))]
            simp [List.cons_prefix_cons, Ne.symm same]

end Runs

/-! ## Groups -/

/-- The groups that took part, in their order, with the bytes they hold. -/
abbrev Groups := List (Nat × Bytes)

/-- The slots, the latest first, mark the groups in the subject. -/
inductive Captures (subject : Subject) : (slots : List (Nat × Nat)) → Groups → Prop
  | none : Captures subject [] []
  | group {later : List (Nat × Nat)} {groups : Groups} (index start stop : Nat)
      (rest : Captures subject later groups) :
      Captures subject (later ++ [(2 * index + 1, stop), (2 * index, start)])
        ((index, (subject.extract start stop).toList) :: groups)

theorem captures_nil {subject : Subject} {slots : List (Nat × Nat)}
    (captured : Captures subject slots []) : slots = [] := by
  cases captured
  rfl

theorem captures_cons {subject : Subject} {slots : List (Nat × Nat)} {index : Nat} {bytes : Bytes}
    {groups : Groups} (captured : Captures subject slots ((index, bytes) :: groups)) :
    ∃ (later : List (Nat × Nat)) (start stop : Nat),
      slots = later ++ [(2 * index + 1, stop), (2 * index, start)] ∧
        (subject.extract start stop).toList = bytes ∧ Captures subject later groups := by
  cases captured with
  | group index start stop rest => exact ⟨_, start, stop, rfl, rfl, rest⟩

/-- A piece that is kept as a group, or one that is not. -/
def Node.grouped (node : Node) : (group : Option Nat) → Node
  | none => node
  | some index => .group index node

def Way.past (way : Way) (length : Nat) : (group : Option Nat) → Way
  | none => way.move length
  | some index => ((way.save (2 * index)).move length).save (2 * index + 1)

def keep (group : Option Nat) (piece : Bytes) (groups : Groups) : Groups :=
  match group with
  | none => groups
  | some index => (index, piece) :: groups

@[simp] theorem past_position (way : Way) (length : Nat) (group : Option Nat) :
    (way.past length group).position = way.position + length := by
  cases group <;> rfl

theorem ways_grouped {subject : Subject} {node : Node} {places : List Nat} (way : Way)
    (runs : ∀ saved : Way, saved.position = way.position →
      node.ways subject saved = places.map saved.move) (group : Option Nat) :
    (node.grouped group).ways subject way = places.map fun length => way.past length group := by
  cases group with
  | none => exact runs way rfl
  | some index =>
      have inner := runs (way.save (2 * index)) rfl
      rw [Node.grouped, Node.ways, inner, List.map_map]
      rfl

/-! ## Scans -/

/-- What a sequence of pieces finds at the start of a text. -/
abbrev Scan := Bytes → Option Groups

namespace Scan

/-- Nothing more is asked for. -/
def done : Scan := fun _ => some []

def exact (text : Bytes) (next : Scan) : Scan := fun line =>
  (line.dropPrefix? text).bind next

/-- The longest run of bytes of a set, at least one of them. -/
def many (group : Option Nat) (set : Ranges) (next : Scan) : Scan := fun line =>
  let run := front set line
  if run.isEmpty then none else (next (line.drop run.length)).map (keep group run)

/-- The longest stretch of the text behind which the scan goes on. -/
def anything (group : Option Nat) (next : Scan) : Scan := fun line =>
  latest? (fun place => (next (line.drop place)).map (keep group (line.take place)))
    (line.length + 1)

end Scan

/-- The first way from a place and the scan of the line there come to the same. -/
def Agrees (subject : Subject) (way : Way) (first : Option Way) : Option Groups → Prop
  | none => first = none
  | some groups => ∃ (after : Way) (slots : List (Nat × Nat)), first = some after ∧
      after.position ≤ way.position + (subject.lineAt way.position).length ∧
      after.slots = slots ++ way.slots ∧ Captures subject slots groups

/-- The scan tells what the node finds on a line. -/
def Follows (node : Node) (scan : Scan) : Prop :=
  ∀ (subject : Subject) (way : Way), way.position ≤ subject.size →
    Agrees subject way (node.ways subject way).head? (scan (subject.lineAt way.position))

namespace Agrees

variable {subject : Subject} {way : Way}

/-- What agrees behind a piece agrees before it, with the piece kept. -/
theorem past {length : Nat} {group : Option Nat} {first : Option Way} {groups : Option Groups}
    (within : length ≤ (subject.lineAt way.position).length)
    (agrees : Agrees subject (way.past length group) first groups) :
    Agrees subject way first
      (groups.map (keep group ((subject.lineAt way.position).take length))) := by
  cases groups with
  | none => exact agrees
  | some groups =>
      obtain ⟨after, slots, found, bound, saved, captured⟩ := agrees
      rw [past_position, line_at_move within, List.length_drop] at bound
      have bound' : after.position ≤ way.position + (subject.lineAt way.position).length := by omega
      cases group with
      | none => exact ⟨after, slots, found, bound', saved, captured⟩
      | some index =>
          refine ⟨after, slots ++ [(2 * index + 1, way.position + length),
            (2 * index, way.position)], found, bound', ?_, ?_⟩
          · rw [saved]
            simp [Way.past]
          · have group := Captures.group index way.position (way.position + length) captured
            rw [extract_line within] at group
            exact group

theorem latest {firsts : Nat → Option Way} {scans : Nat → Option Groups} (count : Nat)
    (agrees : ∀ place, place < count → Agrees subject way (firsts place) (scans place)) :
    Agrees subject way (latest? firsts count) (latest? scans count) := by
  induction count with
  | zero => exact rfl
  | succ count ih =>
      have earlier := ih fun place below => agrees place (Nat.lt_succ_of_lt below)
      have last := agrees count (Nat.lt_succ_self _)
      rw [latest_succ, latest_succ]
      cases found : scans count with
      | none =>
          rw [found] at last
          have missing : firsts count = none := last
          rw [missing, Option.none_or, Option.none_or]
          exact earlier
      | some groups =>
          rw [found] at last
          obtain ⟨after, slots, first, rest⟩ := last
          rw [first, Option.some_or, Option.some_or]
          exact ⟨after, slots, rfl, rest⟩

end Agrees

/-! ## Pieces in sequence -/

theorem head_ways_concat (first second : Node) (subject : Subject) (way : Way) :
    ((Node.concat first second).ways subject way).head? =
      (first.ways subject way).findSome? fun after => (second.ways subject after).head? :=
  List.head?_flatMap

/-- A scan that fails behind the longest run of a set fails behind every shorter one. -/
def Longest (set : Ranges) (next : Scan) : Prop :=
  ∀ back rest : Bytes, back ≠ [] → (∀ byte ∈ back, set.contains byte.toNat = true) →
    next rest = none → next (back ++ rest) = none

/-- So giving bytes back changes nothing. -/
theorem scan_many_latest {group : Option Nat} {set : Ranges} {next : Scan}
    (longest : Longest set next) (line : Bytes) :
    Scan.many group set next line =
      latest? (fun place => (next (line.drop (place + 1))).map
        (keep group (line.take (place + 1)))) (front set line).length := by
  have split : front set line ++ line.drop (front set line).length = line :=
    List.prefix_iff_eq_append.1 (List.takeWhile_prefix _)
  have members : ∀ byte ∈ front set line, set.contains byte.toNat = true :=
    List.all_eq_true.1 List.all_takeWhile
  rw [Scan.many]
  rcases run : front set line with _ | ⟨first, others⟩
  · rfl
  · rw [run] at split members
    have taken : line.take (others.length + 1) = first :: others := by
      rw [← split]
      exact List.take_left' rfl
    rw [List.length_cons, latest_succ, taken]
    cases behind : next (line.drop (others.length + 1)) with
    | some groups => rfl
    | none =>
        have shorter : ∀ place, place < others.length → next (line.drop (place + 1)) = none := by
          intro place below
          have back : line.drop (place + 1) =
              others.drop place ++ line.drop (others.length + 1) := by
            conv_lhs => rw [← split]
            simp [List.drop_append_of_le_length (Nat.le_of_lt below)]
          rw [back]
          refine longest _ _ ?_ ?_ behind
          · simp [below]
          · intro byte member
            exact members byte (List.mem_cons_of_mem _ (List.mem_of_mem_drop member))
        have earlier : latest? (fun place => (next (line.drop (place + 1))).map
            (keep group (line.take (place + 1)))) others.length = none := by
          apply latest_none_iff.2
          intro place below
          rw [shorter place below]
          rfl
        rw [earlier]
        rfl

@[simp] theorem map_keep_none (piece : Bytes) (groups : Option Groups) :
    groups.map (keep none piece) = groups := by
  cases groups <;> rfl

theorem drop_prefix_iff (line text rest : Bytes) :
    line.dropPrefix? text = some rest ↔ line = text ++ rest := by
  rw [List.dropPrefix?_eq_some_iff]
  constructor
  · rintro ⟨front, split, same⟩
    rw [split, eq_of_beq same]
  · intro split
    exact ⟨text, split, BEq.rfl⟩

theorem drop_prefix_none_iff (line text : Bytes) :
    line.dropPrefix? text = none ↔ ¬ text <+: line := by
  rw [Option.eq_none_iff_forall_ne_some]
  constructor
  · rintro missing ⟨rest, split⟩
    exact missing rest ((drop_prefix_iff _ _ rest).2 split.symm)
  · intro other rest found
    exact other ⟨rest, ((drop_prefix_iff _ _ rest).1 found).symm⟩

/-- A run does not end short of a text that cannot begin with a byte of the run. -/
theorem longest_exact {set : Ranges} {letter : UInt8} (other : set.contains letter.toNat = false)
    (text : Bytes) (next : Scan) : Longest set (.exact (letter :: text) next) := by
  intro back rest nonempty members _
  cases back with
  | nil => exact absurd rfl nonempty
  | cons first back =>
      have different : ¬ letter :: text <+: first :: back ++ rest := by
        intro begins
        have same : letter = first := (List.cons_prefix_cons.1 begins).1
        have member := members first List.mem_cons_self
        rw [← same, other] at member
        cases member
      rw [Scan.exact, (drop_prefix_none_iff _ _).2 different]
      rfl

theorem longest_many {set other : Ranges}
    (apart : ∀ byte : UInt8, set.contains byte.toNat = true → other.contains byte.toNat = false)
    (group : Option Nat) (next : Scan) : Longest set (.many group other next) := by
  intro back rest nonempty members _
  cases back with
  | nil => exact absurd rfl nonempty
  | cons first back =>
      have different := apart first (members first List.mem_cons_self)
      have short : front other (first :: back ++ rest) = [] :=
        List.takeWhile_cons_of_neg (by simp [different])
      rw [Scan.many, short]
      rfl

/-- The rest of a text can always be taken. -/
theorem scan_anything_done (group : Option Nat) :
    Scan.anything group .done = fun text => some (keep group text []) := by
  funext text
  rw [Scan.anything, latest_succ, List.take_length]
  rfl

namespace Follows

variable {node : Node} {next : Scan}

theorem done : Follows .empty .done := by
  intro subject way inside
  exact ⟨way, [], rfl, Nat.le_add_right _ _, rfl, .none⟩

/-- The last piece of a sequence has nothing behind it. -/
theorem last {scan : Scan} (follows : Follows (.concat node .empty) scan) : Follows node scan := by
  intro subject way inside
  have same : (Node.concat node .empty).ways subject way = node.ways subject way :=
    List.flatMap_singleton' _
  rw [← same]
  exact follows subject way inside

/-- Behind a piece of the line the rest of the sequence agrees, so it does from before the piece. -/
theorem behind (group : Option Nat) (follows : Follows node next) {subject : Subject} {way : Way}
    (inside : way.position ≤ subject.size) {length : Nat}
    (within : length ≤ (subject.lineAt way.position).length) :
    Agrees subject way (node.ways subject (way.past length group)).head?
      ((next ((subject.lineAt way.position).drop length)).map
        (keep group ((subject.lineAt way.position).take length))) := by
  apply Agrees.past within
  have moved : (way.past length group).position ≤ subject.size := by
    rw [past_position]
    exact Nat.le_trans (Nat.add_le_add_left within _) (line_at_inside inside)
  have onward := follows subject (way.past length group) moved
  rwa [past_position, line_at_move within] at onward

theorem letters {text : Bytes} (clean : 10 ∉ text) (follows : Follows node next) :
    Follows (.concat (letters text) node) (.exact text next) := by
  intro subject way inside
  rw [head_ways_concat, ways_letters clean, Scan.exact]
  by_cases begins : text <+: subject.lineAt way.position
  · obtain ⟨rest, line⟩ := begins
    have within : text.length ≤ (subject.lineAt way.position).length := by
      rw [← line, List.length_append]
      exact Nat.le_add_right _ _
    have onward := follows.behind none inside within
    rw [← line, List.drop_left, map_keep_none] at onward
    rw [if_pos ⟨rest, line⟩, List.findSome?_singleton, (drop_prefix_iff _ _ rest).2 line.symm]
    exact onward
  · rw [if_neg begins, (drop_prefix_none_iff _ _).2 begins]
    rfl

theorem anything (group : Option Nat) (follows : Follows node next) :
    Follows (.concat (Node.grouped ToolOutput.anything group) node) (.anything group next) := by
  intro subject way inside
  have stretches : ∀ saved : Way, saved.position = way.position →
      ToolOutput.anything.ways subject saved =
        (List.range ((subject.lineAt way.position).length + 1)).reverse.map saved.move := by
    intro saved same
    rw [ways_anything saved (same ▸ inside), same]
  rw [head_ways_concat, ways_grouped way stretches group, List.findSome?_map]
  exact Agrees.latest _ fun place below => follows.behind group inside (Nat.le_of_lt_succ below)

theorem many (group : Option Nat) {set : Ranges} (plain : set.contains 10 = false)
    (longest : Longest set next) (follows : Follows node next) :
    Follows (.concat (Node.grouped (ToolOutput.many set) group) node) (.many group set next) := by
  intro subject way inside
  have turns : ∀ saved : Way, saved.position = way.position →
      (ToolOutput.many set).ways subject saved =
        ((List.range (front set (subject.lineAt way.position)).length).reverse.map (· + 1)).map
          saved.move := by
    intro saved same
    rw [ways_many plain saved (same ▸ inside), same, List.map_map]
    rfl
  rw [head_ways_concat, ways_grouped way turns group, List.findSome?_map, List.findSome?_map,
    scan_many_latest longest]
  refine Agrees.latest _ fun place below => follows.behind group inside ?_
  exact Nat.le_trans below (List.takeWhile_prefix _).length_le

end Follows

end Checkup.Pattern
