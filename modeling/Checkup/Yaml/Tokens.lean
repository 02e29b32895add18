import Checkup.Yaml.Scalar

/-!
# YAML tokens

A text is a sequence of tokens. Indentation shows in tokens of its own, which begin and end block
collections. A simple key is found out to be one only when the colon behind it is read, so the
place where it began is kept until then, for every open flow collection on its own.
-/

namespace Checkup.Yaml

structure Tag where
  /-- Names a namespace; empty for a tag that is written in full. -/
  handle : List Char
  suffix : List Char
  deriving DecidableEq, Repr

inductive Token where
  | version (major minor : Nat)
  | tagNamespace (handle expansion : List Char)
  | documentStart
  | documentEnd
  | blockSequenceStart
  | blockMappingStart
  | blockEnd
  | flowSequenceStart
  | flowSequenceEnd
  | flowMappingStart
  | flowMappingEnd
  | blockEntry
  | flowEntry
  | key
  | value
  | alias (name : List Char)
  | anchor (name : List Char)
  | tag (tag : Tag)
  | scalar (style : ScalarStyle) (text : List Char)
  deriving DecidableEq, Repr

/-! ## Names, tags and directives -/

/-- Reads the name of an anchor or of an alias behind its mark. -/
def anchorName? (cursor : Cursor) : Option (List Char × Cursor) :=
  let name := cursor.rest.takeWhile isNameChar
  let after := cursor.skip name.length
  let ended : Bool := endsWord after.rest || after.rest.head?.any ("?:,]\x7d%@`".toList.contains ·)
  if name.isEmpty || !ended then none else some (name, after)

def hexByte? (high low : Char) : Option Nat := Text.Entity.number? 16 [high, low]

/-- How many bytes a character takes whose first byte is given. -/
def byteCount? (byte : Nat) : Option Nat :=
  if byte < 0x80 then some 1
  else if byte < 0xC0 then none
  else if byte < 0xE0 then some 2
  else if byte < 0xF0 then some 3
  else if byte < 0xF8 then some 4
  else none

/-- Reads `pending` further bytes of one character, each written as a percent sign and two
digits. -/
def continuationBytes? : (pending : Nat) → Cursor → Option (List Char × Cursor)
  | 0, cursor => some ([], cursor)
  | pending + 1, cursor =>
    match cursor.rest with
    | '%' :: high :: low :: _ => do
      let byte ← hexByte? high low
      if byte / 64 = 2 then
        let (chars, cursor) ← continuationBytes? pending (cursor.skip 3)
        return (Char.ofNat byte :: chars, cursor)
      else none
    | _ => none

/-- Reads one escaped character of a tag as the bytes it is made of. -/
def escapedBytes? (cursor : Cursor) : Option (List Char × Cursor) :=
  match cursor.rest with
  | '%' :: high :: low :: _ => do
    let byte ← hexByte? high low
    let (chars, cursor) ← continuationBytes? ((← byteCount? byte) - 1) (cursor.skip 3)
    return (Char.ofNat byte :: chars, cursor)
  | _ => none

def isTagChar (full : Bool) (char : Char) : Bool :=
  isNameChar char || ";/?:@&=+$.!~*'()".toList.contains char ||
    (full && (char == ',' || char == '[' || char == ']'))

/-- Reads the characters of a tag; in a tag written in full more of them may stand. -/
def tagChars? (full : Bool) : (turns : Nat) → Cursor → Option (List Char × Cursor)
  | 0, cursor => some ([], cursor)
  | turns + 1, cursor =>
    match cursor.rest with
    | '%' :: _ => do
      let (bytes, cursor) ← escapedBytes? cursor
      let (chars, cursor) ← tagChars? full turns cursor
      return (bytes ++ chars, cursor)
    | char :: _ =>
      if isTagChar full char then do
        let (chars, cursor) ← tagChars? full turns (cursor.skip 1)
        return (char :: chars, cursor)
      else some ([], cursor)
    | [] => some ([], cursor)

def tagText? (full : Bool) (cursor : Cursor) : Option (List Char × Cursor) :=
  tagChars? full cursor.rest.length cursor

/-- Reads an exclamation mark, a name and perhaps a second mark. -/
def tagHandle? (cursor : Cursor) : Option (List Char × Cursor) :=
  match cursor.rest with
  | '!' :: rest =>
    let name := rest.takeWhile isNameChar
    let after := cursor.skip (name.length + 1)
    match after.rest with
    | '!' :: _ => some ('!' :: name ++ ['!'], after.skip 1)
    | _ => some ('!' :: name, after)
  | _ => none

/-- A handle of at least two characters that ends in an exclamation mark. -/
def isNamespace (handle : List Char) : Bool :=
  1 < handle.length && handle.getLast? == some '!'

def tag? (flow : Bool) (cursor : Cursor) : Option (Tag × Cursor) := do
  let (tag, after) ←
    match cursor.rest with
    | '!' :: '<' :: _ => do
      let (text, cursor) ← tagText? true (cursor.skip 2)
      match text, cursor.rest with
      | _ :: _, '>' :: _ => some (({ handle := [], suffix := text } : Tag), cursor.skip 1)
      | _, _ => none
    | _ => do
      let (handle, cursor) ← tagHandle? cursor
      let (text, cursor) ← tagText? false cursor
      if isNamespace handle then
        if text.isEmpty then none else some ({ handle, suffix := text }, cursor)
      else
        match handle.drop 1 ++ text with
        | [] => some ({ handle := [], suffix := ['!'] }, cursor)
        | suffix => some ({ handle := ['!'], suffix }, cursor)
  if endsWord after.rest || (flow && after.rest.head? == some ',') then some (tag, after) else none

def versionNumber? (cursor : Cursor) : Option (Nat × Cursor) :=
  let digits := cursor.rest.takeWhile Char.isDigit
  if 9 < digits.length then none
  else (Text.Entity.number? 10 digits).map fun number => (number, cursor.skip digits.length)

/-- Reads what stands behind the percent sign of a directive, with the break that ends it. -/
def directive? (cursor : Cursor) : Option (Token × Cursor) := do
  let name := cursor.rest.takeWhile isNameChar
  let cursor := cursor.skip name.length
  if !endsWord cursor.rest then failure
  let cursor := cursor.skipWhile isSpace
  let (token, cursor) ←
    match String.ofList name with
    | "YAML" => do
      let (major, cursor) ← versionNumber? cursor
      if cursor.rest.head? != some '.' then failure
      let (minor, cursor) ← versionNumber? (cursor.skip 1)
      some (Token.version major minor, cursor)
    | "TAG" => do
      let (handle, cursor) ← tagHandle? cursor
      if handle != ['!'] && !isNamespace handle then failure
      if !cursor.rest.head?.any isSpace then failure
      let (expansion, cursor) ← tagText? true (cursor.skipWhile isSpace)
      if expansion.isEmpty || !endsWord cursor.rest then failure
      some (Token.tagNamespace handle expansion, cursor)
    | _ => none
  let cursor := (cursor.skipWhile isSpace).skipComment
  if endsLine cursor.rest then some (token, cursor.takeBreak.2) else none

/-! ## The scan -/

/-- A place where a simple key may have begun. -/
structure PossibleKey where
  /-- Nothing but a key can stand there. -/
  required : Bool
  /-- How many tokens stand before it. -/
  position : Nat
  index : Nat
  line : Nat
  column : Nat

structure Scan where
  cursor : Cursor
  tokens : Array Token := #[]
  /-- The column of the innermost block collection, and those around it. -/
  indent : Int := -1
  outerIndents : List Int := []
  /-- The possible key of the innermost collection, and those of the flow collections' surroundings,
  which are as many as flow collections are open. -/
  possibleKey : Option PossibleKey := none
  outerKeys : List (Option PossibleKey) := []
  keyAllowed : Bool := true

namespace Scan

def inFlow (scan : Scan) : Bool := !scan.outerKeys.isEmpty

def push (scan : Scan) (token : Token) : Scan := { scan with tokens := scan.tokens.push token }

def insert (scan : Scan) (position : Nat) (token : Token) : Scan :=
  { scan with tokens := scan.tokens.insertIdxIfInBounds position token }

/-- Moves on by some characters and writes a token. -/
def take (scan : Scan) (count : Nat) (token : Token) : Scan :=
  { scan.push token with cursor := scan.cursor.skip count }

/-- Passes over blanks, comments and breaks. A tab may stand only where no key can begin. -/
def skipBlanks : (turns : Nat) → Scan → Scan
  | 0, scan => scan
  | turns + 1, scan =>
    let cursor :=
      if scan.cursor.index = 0 ∧ scan.cursor.rest.head? = some '\ufeff' then scan.cursor.skip 1
      else scan.cursor
    let tabs := scan.inFlow || !scan.keyAllowed
    let cursor := cursor.skipWhile fun char => char == ' ' || (tabs && char == '\t')
    let cursor := cursor.skipComment
    if cursor.rest.head?.any isBreak then
      skipBlanks turns
        { scan with cursor := cursor.takeBreak.2, keyAllowed := scan.keyAllowed || !scan.inFlow }
    else { scan with cursor }

/-- A key stands on one line and within 1024 characters. -/
def PossibleKey.isStale (key : PossibleKey) (cursor : Cursor) : Bool :=
  key.line < cursor.line || key.index + 1024 < cursor.index

/-- Gives up a key whose colon has not come in time. -/
def refresh? (cursor : Cursor) : Option PossibleKey → Option (Option PossibleKey)
  | some key =>
    if PossibleKey.isStale key cursor then if key.required then none else some none
    else some (some key)
  | none => some none

def refreshKeys? (scan : Scan) : Option Scan := do
  return { scan with
    possibleKey := ← refresh? scan.cursor scan.possibleKey
    outerKeys := ← scan.outerKeys.mapM (refresh? scan.cursor) }

def removeKey? (scan : Scan) : Option Scan :=
  if scan.possibleKey.any (·.required) then none else some { scan with possibleKey := none }

/-- Notes that a key may begin here. -/
def saveKey? (scan : Scan) : Option Scan :=
  if scan.keyAllowed then do
    let cleared ← scan.removeKey?
    let key : PossibleKey :=
      { required := !scan.inFlow && scan.indent == scan.cursor.column
        position := scan.tokens.size
        index := scan.cursor.index
        line := scan.cursor.line
        column := scan.cursor.column }
    some { cleared with possibleKey := some key }
  else some scan

/-- Begins a block collection, unless the innermost one has its column already. -/
def openBlock (scan : Scan) (column position : Nat) (token : Token) : Scan :=
  if !scan.inFlow ∧ scan.indent < column then
    { scan.insert position token with
      indent := column
      outerIndents := scan.indent :: scan.outerIndents }
  else scan

/-- The columns left when the block collections right of `column` end, and how many do. -/
def leave (column : Int) : Int → List Int → Nat × Int × List Int
  | indent, [] => (0, indent, [])
  | indent, outer :: others =>
    if column < indent then
      let (count, rest) := leave column outer others
      (count + 1, rest)
    else (0, indent, outer :: others)

def closeBlocks (scan : Scan) (column : Int) : Scan :=
  if scan.inFlow then scan
  else
    let (count, indent, outerIndents) := leave column scan.indent scan.outerIndents
    { scan with
      tokens := scan.tokens ++ (Array.replicate count Token.blockEnd)
      indent
      outerIndents }

/-- Ends all that is open, before a directive or a document mark. -/
def endDocument? (scan : Scan) : Option Scan :=
  ({ scan.closeBlocks (-1) with keyAllowed := false } : Scan).removeKey?

def openFlow? (scan : Scan) (token : Token) : Option Scan := do
  let scan ← scan.saveKey?
  return { scan.take 1 token with
    possibleKey := none
    outerKeys := scan.possibleKey :: scan.outerKeys
    keyAllowed := true }

def closeFlow? (scan : Scan) (token : Token) : Option Scan := do
  let scan ← scan.removeKey?
  let scan := { scan.take 1 token with keyAllowed := false }
  return match scan.outerKeys with
  | [] => scan
  | key :: outer => { scan with possibleKey := key, outerKeys := outer }

def flowEntry? (scan : Scan) : Option Scan := do
  return { (← scan.removeKey?).take 1 .flowEntry with keyAllowed := true }

def blockEntry? (scan : Scan) : Option Scan := do
  if !scan.inFlow && !scan.keyAllowed then failure
  let scan := scan.openBlock scan.cursor.column scan.tokens.size .blockSequenceStart
  return { (← scan.removeKey?).take 1 .blockEntry with keyAllowed := true }

def key? (scan : Scan) : Option Scan := do
  if !scan.inFlow && !scan.keyAllowed then failure
  let scan := scan.openBlock scan.cursor.column scan.tokens.size .blockMappingStart
  let scan ← scan.removeKey?
  return { scan.take 1 .key with keyAllowed := !scan.inFlow }

def value? (scan : Scan) : Option Scan :=
  match scan.possibleKey with
  | some key =>
    let scan := (scan.insert key.position .key).openBlock key.column key.position .blockMappingStart
    some { scan.take 1 .value with possibleKey := none, keyAllowed := false }
  | none =>
    if !scan.inFlow && !scan.keyAllowed then none
    else
      let scan := scan.openBlock scan.cursor.column scan.tokens.size .blockMappingStart
      some { scan.take 1 .value with keyAllowed := !scan.inFlow }

/-- Writes a token that may be a key and that `read?` has read from the cursor. -/
def content? (scan : Scan) (read? : Cursor → Option (Token × Cursor)) : Option Scan := do
  let scan ← scan.saveKey?
  let (token, cursor) ← read? scan.cursor
  return { scan.push token with cursor, keyAllowed := false }

def plainScalar? (scan : Scan) : Option Scan := do
  let scan ← scan.saveKey?
  let plain ← plain? scan.inFlow (scan.indent + 1) scan.cursor
  return { scan.push (.scalar .plain plain.text) with
    cursor := plain.cursor
    keyAllowed := plain.broken }

def blockScalar? (scan : Scan) (style : ScalarStyle) : Option Scan := do
  let scan ← scan.removeKey?
  let (text, cursor) ← block? (style == .folded) scan.indent (scan.cursor.skip 1)
  return { scan.push (.scalar style text) with cursor, keyAllowed := true }

/-- Whether a plain scalar may begin with the characters at hand. -/
def beginsPlain (flow : Bool) : List Char → Bool
  | [] => false
  | char :: rest =>
    !(endsWord [char] || "-?:,[]\x7b\x7d#&*!|>'\"%@`".toList.contains char) ||
      (char == '-' && !rest.head?.any isSpace) ||
      (!flow && (char == '?' || char == ':') && !endsWord rest)

/-- Reads the token at hand. -/
def token? (scan : Scan) : Option Scan :=
  let cursor := scan.cursor
  let word : Bool := endsWord (cursor.rest.drop 1)
  let mark? : Option (Option Scan) :=
    match cursor.rest with
    | '[' :: _ => some (scan.openFlow? .flowSequenceStart)
    | '\x7b' :: _ => some (scan.openFlow? .flowMappingStart)
    | ']' :: _ => some (scan.closeFlow? .flowSequenceEnd)
    | '\x7d' :: _ => some (scan.closeFlow? .flowMappingEnd)
    | ',' :: _ => some scan.flowEntry?
    | '-' :: _ => if word then some scan.blockEntry? else none
    | '?' :: _ => if scan.inFlow || word then some scan.key? else none
    | ':' :: _ => if scan.inFlow || word then some scan.value? else none
    | '*' :: _ => some (scan.content? fun cursor =>
        (anchorName? (cursor.skip 1)).map fun (name, cursor) => (.alias name, cursor))
    | '&' :: _ => some (scan.content? fun cursor =>
        (anchorName? (cursor.skip 1)).map fun (name, cursor) => (.anchor name, cursor))
    | '!' :: _ => some (scan.content? fun cursor =>
        (tag? scan.inFlow cursor).map fun (tag, cursor) => (.tag tag, cursor))
    | '|' :: _ => if scan.inFlow then none else some (scan.blockScalar? .literal)
    | '>' :: _ => if scan.inFlow then none else some (scan.blockScalar? .folded)
    | '\'' :: _ => some (scan.content? fun cursor =>
        (quoted? '\'' (cursor.skip 1)).map fun (text, cursor) => (.scalar .quoted text, cursor))
    | '"' :: _ => some (scan.content? fun cursor =>
        (quoted? '"' (cursor.skip 1)).map fun (text, cursor) => (.scalar .quoted text, cursor))
    | _ => none
  match mark? with
  | some result => result
  | none => if beginsPlain scan.inFlow cursor.rest then scan.plainScalar? else none

/-- Reads token after token up to the end of the text. -/
def run? : (turns : Nat) → Scan → Option (List Token)
  | 0, _ => none
  | turns + 1, scan => do
    let scan ← (skipBlanks (scan.cursor.rest.length + 1) scan).refreshKeys?
    let scan := scan.closeBlocks scan.cursor.column
    let cursor := scan.cursor
    if cursor.rest.isEmpty then
      let scan ← scan.endDocument?
      return scan.tokens.toList
    else if cursor.column = 0 ∧ cursor.rest.head? = some '%' then
      let scan ← scan.endDocument?
      let (token, cursor) ← directive? (cursor.skip 1)
      run? turns { scan.push token with cursor }
    else if cursor.atMark '-' then
      run? turns ((← scan.endDocument?).take 3 .documentStart)
    else if cursor.atMark '.' then
      run? turns ((← scan.endDocument?).take 3 .documentEnd)
    else run? turns (← scan.token?)

end Scan

/-- The tokens of a text. -/
def tokens? (text : String) : Option (List Token) :=
  let chars := text.toList
  if chars.all isAllowed then Scan.run? (2 * chars.length + 2) { cursor := { rest := chars } }
  else none

end Checkup.Yaml
