import Checkup.Pattern.Bracket
import Checkup.Text.Utf8

/-!
# Reading patterns

Turns the text of a pattern into a node. Flags hold from where they are set to the end of their
group. A pattern is refused when it is malformed, nests too deeply or would grow too large.
-/

namespace Checkup.Pattern

def nestLimit : Nat := 250

/-- The limit on the memory of a pattern, counted as `stateCost` for each of its states. -/
def costLimit : Nat := 10 * 1024 * 1024

def stateCost : Nat := 32

/-- A node that has been read, with what the reader has to know about it. -/
structure Piece where
  node : Node
  depth : Nat := 0
  cost : Nat := stateCost
  /-- It may match the empty text. -/
  nullable : Bool := true
  /-- It can match nothing but the empty text. -/
  alwaysEmpty : Bool := true
  /-- It stands for something that can be repeated. -/
  repeatable : Bool := true

namespace Piece

def nothing : Piece := { node := .empty, repeatable := false }

def ofLook (assertion : Look) : Piece := { node := .look assertion }

def ofSet (flags : Flags) (set : Ranges) : Piece :=
  let perRange := if flags.unicode && set.any (fun range => 0x80 ≤ range.2) then 40 else 8
  { node := flags.nodeOfSet set
    cost := 2 * stateCost + perRange * set.length
    nullable := false
    alwaysEmpty := false }

def ofBytes (bytes : Bytes) : Piece :=
  { node := .concatAll (bytes.map fun byte => .byte (.single byte.toNat))
    cost := stateCost * bytes.length
    nullable := false
    alwaysEmpty := false }

def ofLiteral (flags : Flags) (char : Char) (asByte : Bool) : Piece :=
  let plain := ofBytes (Text.Utf8.encodeChar char)
  let code := char.toNat
  if asByte && !flags.unicode && 0x80 ≤ code then ofBytes [UInt8.ofNat code]
  else if flags.ignoreCase && (flags.unicode || code < 0x80) then
    let set := flags.foldSet (.single code)
    if set == .single code then plain else ofSet flags set
  else plain

def ofAtom (flags : Flags) : Atom → Piece
  | .literal char asByte => ofLiteral flags char asByte
  | .set ranges => ofSet flags ranges
  | .look assertion => ofLook assertion

/-- Any unit of the text but the ends of a line. -/
def ofDot (flags : Flags) : Piece :=
  let excluded : Ranges :=
    if flags.dotAll then [] else if flags.crlf then [(10, 10), (13, 13)] else [(10, 10)]
  ofSet flags (excluded.complement flags.top)

def concat (pieces : List Piece) : Piece :=
  match pieces with
  | [] => { nothing with repeatable := true }
  | [piece] => piece
  | pieces =>
    { node := .concatAll (pieces.map (·.node))
      depth := (pieces.map (·.depth)).foldl max 0 + 1
      cost := (pieces.map (·.cost)).foldl Nat.add 0
      nullable := pieces.all (·.nullable)
      alwaysEmpty := pieces.all (·.alwaysEmpty) }

def either (pieces : List Piece) : Piece :=
  match pieces with
  | [piece] => piece
  | pieces =>
    { node := .eitherAll (pieces.map (·.node))
      depth := (pieces.map (·.depth)).foldl max 0 + 1
      cost := (pieces.map (·.cost)).foldl Nat.add 0 + 2 * stateCost + 4 * pieces.length
      nullable := pieces.any (·.nullable)
      alwaysEmpty := pieces.all (·.alwaysEmpty) }

def group (capture : Option Nat) (inner : Piece) : Piece :=
  match capture with
  | none => { inner with depth := inner.depth + 1, repeatable := true }
  | some index =>
    { inner with
      node := .group index inner.node
      depth := inner.depth + 1
      cost := inner.cost + 2 * stateCost
      repeatable := true }

def repeatedCost (inner : Piece) (least : Nat) (most : Option Nat) : Nat :=
  let branch := stateCost + 8
  match most with
  | none =>
    if least = 0 then
      if inner.nullable then inner.cost + 2 * branch + stateCost else inner.cost + branch
    else least * inner.cost + branch
  | some most =>
    if least = 0 ∧ most = 1 then inner.cost + branch + stateCost
    else if least = most then least * inner.cost
    else
      (if least = 0 then stateCost else least * inner.cost) + stateCost +
        (most - least) * (inner.cost + branch)

/-- Repeats a piece. One that is always empty is repeated once at most, and a piece beyond the
limit is never unfolded. -/
def repeated (inner : Piece) (least : Nat) (most : Option Nat) (greedy : Bool) : Piece :=
  let least := if inner.alwaysEmpty then min least 1 else least
  let most := if inner.alwaysEmpty then some (min (most.getD 1) 1) else most
  if least = 0 ∧ most = some 0 then { nothing with depth := inner.depth + 1, repeatable := true }
  else if least = 1 ∧ most = some 1 then { inner with depth := inner.depth + 1 }
  else
    let cost := inner.repeatedCost least most
    { node := if costLimit < cost then .empty else inner.node.repeated least most greedy
      depth := inner.depth + 1
      cost
      nullable := inner.nullable || least == 0
      alwaysEmpty := inner.alwaysEmpty }

end Piece

/-! ## Groups -/

/-- The content of an open group: alternatives that are complete and the pieces of the last one,
both in reverse. -/
structure Branches where
  complete : List Piece := []
  current : List Piece := []

namespace Branches

def push (branches : Branches) (piece : Piece) : Branches :=
  { branches with current := piece :: branches.current }

def next (branches : Branches) : Branches :=
  ⟨Piece.concat branches.current.reverse :: branches.complete, []⟩

def finish (branches : Branches) : Piece :=
  Piece.either branches.next.complete.reverse

end Branches

/-- A group around the one that is being read. -/
structure GroupFrame where
  outer : Branches
  capture : Option Nat
  flags : Flags

inductive FlagMark where
  | minus
  | flag (letter : Char)
  deriving DecidableEq

/-- Reads flags up to the character that ends them. -/
def flagMarks? : (seen : List FlagMark) → List Char → Option (List FlagMark × Char × List Char)
  | _, [] => none
  | seen, char :: rest =>
    if char == ':' || char == ')' then
      if seen.head? = some .minus then none else some (seen.reverse, char, rest)
    else
      let mark := if char == '-' then FlagMark.minus else .flag char
      if seen.contains mark then none
      else if char == '-' || "imsUuRx".toList.contains char then flagMarks? (mark :: seen) rest
      else none

def Flags.set (flags : Flags) (letter : Char) (value : Bool) : Flags :=
  match letter with
  | 'i' => { flags with ignoreCase := value }
  | 'm' => { flags with multiLine := value }
  | 's' => { flags with dotAll := value }
  | 'U' => { flags with swapGreed := value }
  | 'u' => { flags with unicode := value }
  | 'R' => { flags with crlf := value }
  | _ => { flags with extended := value }

def Flags.apply (flags : Flags) : (value : Bool) → List FlagMark → Flags
  | _, [] => flags
  | _, .minus :: rest => flags.apply false rest
  | value, .flag letter :: rest => (flags.set letter value).apply value rest

def isNameChar (first : Bool) (char : Char) : Bool :=
  char == '_' ||
    (if first then CharClass.alphabetic.contains char.toNat
    else
      char == '.' || char == '[' || char == ']' || CharClass.alphanumeric.contains char.toNat)

/-- The name of a group up to its closing angle bracket. -/
def groupName? (chars : List Char) : Option (String × List Char) :=
  let name := chars.takeWhile (· != '>')
  match chars.drop name.length with
  | [] => none
  | _ :: rest =>
    match name with
    | [] => none
    | first :: more =>
      if isNameChar true first && more.all (isNameChar false) then some (String.ofList name, rest)
      else none

inductive GroupStart where
  | flags (marks : List FlagMark)
  | open_ (name : Option String) (capturing : Bool) (marks : List FlagMark)

/-- Reads the beginning of a group behind its parenthesis. -/
def groupStart? (flags : Flags) (chars : List Char) : Option (GroupStart × List Char) :=
  match flags.skip chars with
  | '?' :: '=' :: _ | '?' :: '!' :: _ | '?' :: '<' :: '=' :: _ | '?' :: '<' :: '!' :: _ => none
  | '?' :: 'P' :: '<' :: rest =>
    (groupName? rest).map fun (name, rest) => (.open_ (some name) true [], rest)
  | '?' :: '<' :: rest =>
    (groupName? rest).map fun (name, rest) => (.open_ (some name) true [], rest)
  | '?' :: rest =>
    match flagMarks? [] rest with
    | none => none
    | some (marks, ')', rest) => if marks.isEmpty then none else some (.flags marks, rest)
    | some (marks, _, rest) => some (.open_ none false marks, rest)
  | rest => some (.open_ none true [], rest)

/-! ## Counts -/

def countLimit : Nat := 1 <<< 32

def decimal? (flags : Flags) (chars : List Char) : Option (Option Nat × List Char) :=
  let chars := chars.dropWhile Text.isBlank
  let (digits, rest) := flags.takeSpaced Char.isDigit chars
  let rest := (flags.takeSpaced Text.isBlank rest).2
  match Text.Entity.number? 10 digits with
  | none => some (none, rest)
  | some value => if value < countLimit then some (some value, rest) else none

/-- Reads a counted repetition behind its brace. -/
def counts? (flags : Flags) (chars : List Char) : Option (Nat × Option Nat × List Char) := do
  let (least, rest) ← decimal? flags (flags.skip chars)
  let least ← least
  match rest with
  | ',' :: rest =>
    match flags.skip rest with
    | '\x7d' :: rest => return (least, none, rest)
    | rest =>
      let (most, rest) ← decimal? flags rest
      let most ← most
      match rest with
      | '\x7d' :: rest => if least ≤ most then return (least, some most, rest) else none
      | _ => none
  | '\x7d' :: rest => return (least, some least, rest)
  | _ => none

/-! ## The loop -/

structure ReadState where
  flags : Flags
  frames : List GroupFrame := []
  branches : Branches := ⟨[], []⟩
  groups : Nat := 0
  names : List (String × Nat) := []

namespace ReadState

def push (state : ReadState) (piece : Piece) : ReadState :=
  { state with branches := state.branches.push piece }

def startGroup? (state : ReadState) : GroupStart → Option ReadState
  | .flags marks =>
    some { state.push .nothing with flags := state.flags.apply true marks }
  | .open_ name capturing marks =>
    let index := state.groups + 1
    let taken := name.any fun name => state.names.any (·.1 == name)
    if taken then none
    else
      some
        { flags := state.flags.apply true marks
          frames := ⟨state.branches, if capturing then some index else none, state.flags⟩ ::
            state.frames
          branches := ⟨[], []⟩
          groups := if capturing then index else state.groups
          names := state.names ++ (name.map fun name => (name, index)).toList }

def endGroup? (state : ReadState) : Option ReadState :=
  match state.frames with
  | [] => none
  | frame :: below =>
    let piece := Piece.group frame.capture state.branches.finish
    some { state with flags := frame.flags, frames := below, branches := frame.outer.push piece }

/-- Puts a repetition around the last piece; a question mark makes it lazy. -/
def repeatLast? (state : ReadState) (least : Nat) (most : Option Nat) (lazy : Bool) :
    Option ReadState :=
  match state.branches.current with
  | [] => none
  | last :: before =>
    if last.repeatable then
      let piece := last.repeated least most (lazy == state.flags.swapGreed)
      some { state with branches := { state.branches with current := piece :: before } }
    else none

end ReadState

def takeQuestion : List Char → Bool × List Char
  | '?' :: rest => (true, rest)
  | chars => (false, chars)

def lineLook (flags : Flags) (start : Bool) : Look :=
  match flags.multiLine, start with
  | true, true => .lineStart flags.crlf
  | true, false => .lineEnd flags.crlf
  | false, true => .textStart
  | false, false => .textEnd

/-- Reads one item of the pattern. -/
def readItem? (state : ReadState) (char : Char) (rest : List Char) :
    Option (ReadState × List Char) :=
  let flags := state.flags
  let plain (least : Nat) (most : Option Nat) : Option (ReadState × List Char) :=
    let (lazy, rest) := takeQuestion rest
    (state.repeatLast? least most lazy).map (·, rest)
  match char with
  | '(' => do
    let (start, rest) ← groupStart? flags rest
    return (← state.startGroup? start, rest)
  | ')' => (state.endGroup?).map (·, rest)
  | '|' => some ({ state with branches := state.branches.next }, rest)
  | '[' => do
    let (read, rest) ← bracket? flags rest
    return (state.push { Piece.ofSet flags read.set with depth := read.depth }, rest)
  | '?' => plain 0 (some 1)
  | '*' => plain 0 none
  | '+' => plain 1 none
  | '\x7b' => do
    let (least, most, rest) ← counts? flags rest
    let (lazy, rest) := takeQuestion (flags.skip rest)
    return (← state.repeatLast? least most lazy, rest)
  | '\\' => do
    let (atom, rest) ← escape? flags rest
    return (state.push (.ofAtom flags atom), rest)
  | '.' => some (state.push (.ofDot flags), rest)
  | '^' => some (state.push (.ofLook (lineLook flags true)), rest)
  | '$' => some (state.push (.ofLook (lineLook flags false)), rest)
  | char => some (state.push (.ofLiteral flags char false), rest)

/-- Each turn takes at least one character. -/
def readItems : (turns : Nat) → ReadState → List Char → Option ReadState
  | 0, _, _ => none
  | turns + 1, state, chars =>
    match state.flags.skip chars with
    | [] => some state
    | char :: rest =>
      match readItem? state char rest with
      | none => none
      | some (state, rest) => readItems turns state rest

/-- What a pattern denotes, and the numbers of its named groups. -/
structure Reading where
  node : Node
  names : List (String × Nat)

/-- States around the pattern: the group of the whole match, its end and the way to its start. -/
def frameCost : Nat := 7 * stateCost

def read? (text : String) : Option Reading :=
  let chars := text.toList
  match readItems (chars.length + 1) { flags := {} } chars with
  | none => none
  | some state =>
    if state.frames.isEmpty then
      let piece := state.branches.finish
      if nestLimit < piece.depth ∨ costLimit < piece.cost + frameCost then none
      else some ⟨piece.node, state.names⟩
    else none

end Checkup.Pattern
