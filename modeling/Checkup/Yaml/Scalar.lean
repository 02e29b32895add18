import Checkup.Yaml.Cursor

/-!
# YAML scalars

The text of plain, quoted and block scalars.
-/

namespace Checkup.Yaml

inductive ScalarStyle where
  | plain
  | quoted
  | literal
  | folded
  deriving DecidableEq, Repr

/-! ## Plain scalars -/

def isFlowMark (char : Char) : Bool :=
  char == ',' || char == '[' || char == ']' || char == '\x7b' || char == '\x7d'

/-- The characters at hand end a plain scalar. -/
def endsPlain (flow : Bool) : List Char → Bool
  | [] => true
  | char :: rest =>
    (char == ':' && endsWord rest) ||
      (flow && (isFlowMark char || (char == '?' && endsWord rest)))

/-- A colon directly before a mark of a flow collection is refused. -/
def refusesColon (flow : Bool) : List Char → Bool
  | ':' :: next :: _ => flow && (isFlowMark next || next == '?')
  | _ => false

def plainWord? (flow : Bool) : (turns : Nat) → Cursor → Option (List Char × Cursor)
  | 0, cursor => some ([], cursor)
  | turns + 1, cursor =>
    if endsWord cursor.rest then some ([], cursor)
    else if refusesColon flow cursor.rest then none
    else if endsPlain flow cursor.rest then some ([], cursor)
    else
      match cursor.rest with
      | [] => some ([], cursor)
      | char :: _ =>
        (plainWord? flow turns (cursor.skip 1)).map fun (word, cursor) => (char :: word, cursor)

structure PlainScalar where
  text : List Char
  /-- A line break follows the text. -/
  broken : Bool
  cursor : Cursor

/-- Reads word after word. Outside of flow collections a line left of `indent` ends the scalar. -/
def plainWords? (flow : Bool) (indent : Int) :
    (turns : Nat) → (text : List Char) → Gap → Cursor → Option PlainScalar
  | 0, text, gap, cursor => some ⟨text, gap.broken, cursor⟩
  | turns + 1, text, gap, cursor =>
    if cursor.atDocumentMark || cursor.rest.head? == some '#' then
      some ⟨text, gap.broken, cursor⟩
    else
      match plainWord? flow cursor.rest.length cursor with
      | none => none
      | some (word, after) =>
        let text := if word.isEmpty then text else text ++ gap.text ++ word
        let gap := if word.isEmpty then gap else {}
        match after.rest with
        | [] => some ⟨text, gap.broken, after⟩
        | char :: _ =>
          if isSpace char || isBreak char then
            match takeGap? indent after.rest.length {} after with
            | none => none
            | some (gap, cursor) =>
              if !flow ∧ (cursor.column : Int) < indent then some ⟨text, gap.broken, cursor⟩
              else plainWords? flow indent turns text gap cursor
          else some ⟨text, gap.broken, after⟩

def plain? (flow : Bool) (indent : Int) (cursor : Cursor) : Option PlainScalar :=
  plainWords? flow indent (cursor.rest.length + 1) [] {} cursor

/-! ## Quoted scalars -/

def escapeLetter? (letter : Char) : Option Char :=
  match letter with
  | '0' => some '\x00'
  | 'a' => some '\x07'
  | 'b' => some '\x08'
  | 't' | '\t' => some '\t'
  | 'n' => some '\n'
  | 'v' => some '\x0b'
  | 'f' => some '\x0c'
  | 'r' => some '\r'
  | 'e' => some '\x1b'
  | ' ' => some ' '
  | '"' => some '"'
  | '/' => some '/'
  | '\\' => some '\\'
  | 'N' => some '\u0085'
  | '_' => some '\u00a0'
  | 'L' => some '\u2028'
  | 'P' => some '\u2029'
  | _ => none

def escapeLength? (letter : Char) : Option Nat :=
  match letter with
  | 'x' => some 2
  | 'u' => some 4
  | 'U' => some 8
  | _ => none

/-- The character that an escape stands for and how long the escape is with its backslash. -/
def escape? : List Char → Option (Char × Nat)
  | [] => none
  | letter :: rest =>
    match escapeLength? letter with
    | some count =>
      let digits := rest.take count
      if digits.length = count then
        (Text.Entity.number? 16 digits).bind fun code =>
          if valid : code.isValidChar then some (Char.ofNatAux code valid, count + 2) else none
      else none
    | none => (escapeLetter? letter).map fun char => (char, 2)

/-- How a run of characters in quotes ended. -/
inductive WordEnd where
  | quote
  | blank
  | joined
  deriving DecidableEq

def quotedWord? (quote : Char) :
    (turns : Nat) → Cursor → Option (List Char × WordEnd × Cursor)
  | 0, _ => none
  | turns + 1, cursor =>
    let onward (char : Char) (count : Nat) : Option (List Char × WordEnd × Cursor) :=
      (quotedWord? quote turns (cursor.skip count)).map fun (word, ending) => (char :: word, ending)
    if endsWord cursor.rest then some ([], .blank, cursor)
    else
      match quote, cursor.rest with
      | '\'', '\'' :: '\'' :: _ => onward '\'' 2
      | '"', '\\' :: rest =>
        if endsLine rest && !rest.isEmpty then
          some ([], .joined, ((cursor.skip 1).takeBreak).2)
        else (escape? rest).bind fun (char, count) => onward char count
      | quote, char :: _ =>
        if char = quote then some ([], .quote, cursor) else onward char 1
      | _, [] => none

/-- Reads up to the closing quote. -/
def quotedWords? (quote : Char) : (turns : Nat) → Cursor → Option (List Char × Cursor)
  | 0, _ => none
  | turns + 1, cursor =>
    if cursor.atDocumentMark || cursor.rest.isEmpty then none
    else
      match quotedWord? quote (cursor.rest.length + 1) cursor with
      | none => none
      | some (word, .quote, cursor) => some (word, cursor.skip 1)
      | some (word, ending, cursor) =>
        match takeGap? 0 cursor.rest.length { broken := ending == .joined } cursor with
        | none => none
        | some (gap, cursor) =>
          (quotedWords? quote turns cursor).map fun (text, cursor) =>
            (word ++ gap.text ++ text, cursor)

/-- Reads a quoted scalar behind its first quote. -/
def quoted? (quote : Char) (cursor : Cursor) : Option (List Char × Cursor) :=
  quotedWords? quote (cursor.rest.length + 1) cursor

/-! ## Block scalars -/

inductive Chomping where
  | strip
  | clip
  | keep
  deriving DecidableEq

def chomping? : List Char → Option Chomping
  | '+' :: _ => some .keep
  | '-' :: _ => some .strip
  | _ => none

def increment? : List Char → Option Nat
  | char :: _ => if char.isDigit then some (char.toNat - '0'.toNat) else none
  | [] => none

/-- Reads the chomping mark and the indentation digit, in any order. -/
def blockHeader? (cursor : Cursor) : Option (Chomping × Option Nat × Cursor) :=
  let (chomping, increment, after) :=
    match chomping? cursor.rest with
    | some chomping =>
      let cursor := cursor.skip 1
      match increment? cursor.rest with
      | some digit => (chomping, some digit, cursor.skip 1)
      | none => (chomping, none, cursor)
    | none =>
      match increment? cursor.rest with
      | some digit =>
        let cursor := cursor.skip 1
        match chomping? cursor.rest with
        | some chomping => (chomping, some digit, cursor.skip 1)
        | none => (.clip, some digit, cursor)
      | none => (.clip, none, cursor)
  if increment = some 0 then none else some (chomping, increment, after)

/-- Reads empty lines. Without a known indentation it is found from the widest of them. -/
def blockBreaks? (indent : Nat) :
    (turns widest : Nat) → (breaks : List Char) → Cursor → Option (List Char × Nat × Cursor)
  | 0, widest, breaks, cursor => some (breaks, widest, cursor)
  | turns + 1, widest, breaks, cursor =>
    let spaces := (cursor.rest.takeWhile (· == ' ')).length
    let cursor := cursor.skip (if indent = 0 then spaces else min spaces (indent - cursor.column))
    let widest := max widest cursor.column
    let within : Bool := indent == 0 || cursor.column < indent
    match cursor.rest with
    | '\t' :: _ => if within then none else some (breaks, widest, cursor)
    | char :: _ =>
      if isBreak char then
        let (text, cursor) := cursor.takeBreak
        blockBreaks? indent turns widest (breaks ++ text) cursor
      else some (breaks, widest, cursor)
    | [] => some (breaks, widest, cursor)

/-- The lines of a block read so far: its text, the break that ended the last line, and the empty
lines behind it. -/
structure BlockText where
  text : List Char := []
  lineBreak : List Char := []
  emptyLines : List Char := []
  /-- The last line begins with a blank. -/
  indented : Bool := false

/-- In a folded block a break between two lines that do not begin with a blank is a space. -/
def BlockText.joined (block : BlockText) (folded indented : Bool) : List Char :=
  if folded && block.lineBreak.head? == some '\n' && !block.indented && !indented then
    block.text ++ (if block.emptyLines.isEmpty then [' '] else []) ++ block.emptyLines
  else block.text ++ block.lineBreak ++ block.emptyLines

def blockLines? (folded : Bool) (indent : Nat) :
    (turns : Nat) → BlockText → Cursor → Option (BlockText × Cursor)
  | 0, block, cursor => some (block, cursor)
  | turns + 1, block, cursor =>
    if cursor.column = indent ∧ !cursor.rest.isEmpty then
      let indented := cursor.rest.head?.any isSpace
      let line := cursor.rest.takeWhile (!isBreak ·)
      let (lineBreak, after) := (cursor.skip line.length).takeBreak
      match blockBreaks? indent (after.rest.length + 1) 0 [] after with
      | none => none
      | some (emptyLines, _, cursor) =>
        blockLines? folded indent turns
          ⟨block.joined folded indented ++ line, lineBreak, emptyLines, indented⟩ cursor
    else some (block, cursor)

/-- Reads a block scalar behind its mark, `parent` being the indentation around it. -/
def block? (folded : Bool) (parent : Int) (cursor : Cursor) : Option (List Char × Cursor) := do
  let (chomping, increment, cursor) ← blockHeader? cursor
  let cursor := (cursor.skipWhile isSpace).skipComment
  if !endsLine cursor.rest then none
  else
    let (_, cursor) := cursor.takeBreak
    let given : Nat :=
      match increment with
      | some increment => if 0 ≤ parent then parent.toNat + increment else increment
      | none => 0
    let (breaks, widest, cursor) ← blockBreaks? given (cursor.rest.length + 1) 0 [] cursor
    let indent := if given = 0 then max (max widest (parent + 1).toNat) 1 else given
    let (block, cursor) ←
      blockLines? folded indent (cursor.rest.length + 1) { emptyLines := breaks } cursor
    let text :=
      match chomping with
      | .strip => block.text
      | .clip => block.text ++ block.lineBreak
      | .keep => block.text ++ block.lineBreak ++ block.emptyLines
    return (text, cursor)

end Checkup.Yaml
