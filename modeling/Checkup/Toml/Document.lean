import Checkup.Toml.Quoted
import Checkup.Toml.Scalar
import Checkup.Toml.Table

/-!
# TOML documents

Reads a document line by line into one table. Inline tables may span lines and end in a comma.
-/

namespace Checkup.Toml

def dropSpace (chars : List Char) : List Char := chars.dropWhile isSpace

/-- The text behind a comment, if the comment holds no control character. -/
def dropComment? : List Char → Option (List Char)
  | '#' :: rest =>
    let comment := rest.takeWhile fun char => char != '\n' && char != '\r'
    if comment.all isPlain then some (rest.drop comment.length) else none
  | chars => some chars

/-- The text behind the end of a line, which may have a comment. -/
def endLine? (chars : List Char) : Option (List Char) := do
  match ← dropComment? (dropSpace chars) with
  | [] => some []
  | '\n' :: rest => some rest
  | '\r' :: '\n' :: rest => some rest
  | _ => none

/-- Passes over blanks, line ends and comments; each turn takes a character. -/
def dropGaps? : (turns : Nat) → List Char → Option (List Char)
  | 0, _ => none
  | turns + 1, chars =>
    match dropSpace chars with
    | '\n' :: rest => dropGaps? turns rest
    | '\r' :: '\n' :: rest => dropGaps? turns rest
    | '#' :: rest => (dropComment? ('#' :: rest)).bind (dropGaps? turns)
    | rest => some rest

def gaps? (chars : List Char) : Option (List Char) := dropGaps? (chars.length + 1) chars

/-! ## Keys -/

def isKeyChar (char : Char) : Bool := char.isAlphanum || char == '_' || char == '-'

def simpleKey? : List Char → Option (String × List Char)
  | '"' :: rest => quotedKey? '"' rest
  | '\'' :: rest => quotedKey? '\'' rest
  | chars =>
    let key := chars.takeWhile isKeyChar
    if key.isEmpty then none else some (String.ofList key, chars.drop key.length)

/-- Reads a dotted key; blanks may stand around the dots. -/
def key? : (turns : Nat) → List Char → Option (List String × List Char)
  | 0, _ => none
  | turns + 1, chars => do
    let (name, rest) ← simpleKey? (dropSpace chars)
    match dropSpace rest with
    | '.' :: rest => do
      let (names, rest) ← key? turns rest
      return (name :: names, rest)
    | rest => return ([name], rest)

/-! ## Values -/

def nestLimit : Nat := 80

/-- A blank may stand for the mark between a date and a time. -/
def bareText (chars : List Char) : List Char × List Char :=
  let text := chars.takeWhile isBareChar
  let rest := chars.drop text.length
  match rest with
  | ' ' :: after =>
    let time := after.takeWhile isBareChar
    if date? text = some [] ∧ time.head?.any Char.isDigit then
      (text ++ 'T' :: time, after.drop time.length)
    else (text, rest)
  | rest => (text, rest)

def bareValue : Bare → Value
  | .truth value => .truth value
  | .number => .number
  | .date written => .date written

mutual

/-- Reads a value at a depth of nesting; each turn takes a character. -/
def value? : (turns depth : Nat) → List Char → Option (Value × List Char)
  | 0, _, _ => none
  | turns + 1, depth, chars =>
    match chars with
    | '"' :: rest => (quoted? '"' rest).map fun (text, rest) => (.text text, rest)
    | '\'' :: rest => (quoted? '\'' rest).map fun (text, rest) => (.text text, rest)
    | '[' :: rest =>
      if depth < nestLimit then
        (items? turns (depth + 1) rest).map fun (items, rest) => (.list items, rest)
      else none
    | '\x7b' :: rest =>
      if depth < nestLimit then
        (fields? turns (depth + 1) [] rest).map fun (entries, rest) =>
          (.table .inline entries, rest)
      else none
    | chars =>
      let (text, rest) := bareText chars
      (bare? text).map fun bare => (bareValue bare, rest)

/-- Reads the items of a list and its closing bracket. -/
def items? : (turns depth : Nat) → List Char → Option (List Value × List Char)
  | 0, _, _ => none
  | turns + 1, depth, chars => do
    match ← gaps? chars with
    | ']' :: rest => some ([], rest)
    | chars => do
      let (item, rest) ← value? turns depth chars
      match ← gaps? rest with
      | ',' :: rest => do
        let (items, rest) ← items? turns depth rest
        return (item :: items, rest)
      | ']' :: rest => some ([item], rest)
      | _ => none

/-- Reads the fields of an inline table and its closing brace. -/
def fields? : (turns depth : Nat) → Entries → List Char → Option (Entries × List Char)
  | 0, _, _, _ => none
  | turns + 1, depth, entries, chars => do
    match ← gaps? chars with
    | '\x7d' :: rest => some (entries, rest)
    | chars => do
      let (key, rest) ← key? (chars.length + 1) chars
      match rest with
      | '=' :: rest => do
        let (value, rest) ← value? turns depth (dropSpace rest)
        let entries ← entries.insert? value true key
        match ← gaps? rest with
        | ',' :: rest => fields? turns depth entries rest
        | '\x7d' :: rest => some (entries, rest)
        | _ => none
      | _ => none

end

/-! ## Lines -/

structure ReadState where
  header : List String := []
  entries : Entries := []

def header? (state : ReadState) (repeated : Bool) (chars : List Char) :
    Option (ReadState × List Char) := do
  let (path, rest) ← key? (chars.length + 1) chars
  let rest ←
    match rest with
    | ']' :: ']' :: rest => if repeated then some rest else none
    | ']' :: rest => if repeated then none else some rest
    | _ => none
  return (⟨path, ← state.entries.openTable? repeated path⟩, ← endLine? rest)

def assignment? (state : ReadState) (chars : List Char) : Option (ReadState × List Char) := do
  let (key, rest) ← key? (chars.length + 1) chars
  match rest with
  | '=' :: rest => do
    let (value, rest) ← value? (rest.length + 1) 0 (dropSpace rest)
    let entries ← Entries.insertUnder? value key state.header state.entries
    return ({ state with entries }, ← endLine? rest)
  | _ => none

/-- Reads lines; each turn takes one. -/
def lines? : (turns : Nat) → ReadState → List Char → Option Entries
  | 0, _, _ => none
  | turns + 1, state, chars =>
    match dropSpace chars with
    | [] => some state.entries
    | '[' :: '[' :: rest => do
      let (state, rest) ← header? state true rest
      lines? turns state rest
    | '[' :: rest => do
      let (state, rest) ← header? state false rest
      lines? turns state rest
    | char :: rest =>
      if char = '#' ∨ char = '\n' ∨ char = '\r' then do
        lines? turns state (← endLine? (char :: rest))
      else do
        let (state, rest) ← assignment? state (char :: rest)
        lines? turns state rest

/-- The table that a document writes. A byte order mark may begin it. -/
def read? (text : String) : Option Entries :=
  let chars :=
    match text.toList with
    | '\ufeff' :: rest => rest
    | chars => chars
  lines? (chars.length + 1) {} chars

/-- The data of a document. -/
def datum? (text : String) : Option Settings.Datum :=
  (read? text).map fun entries => .table (entryData entries)

end Checkup.Toml
