import Checkup.Text.Entity

/-!
# Quoted TOML texts

Basic texts have escapes, literal ones have none; both exist on one line and over several lines.
-/

namespace Checkup.Toml

/-- Tabs aside, control characters stand nowhere in a text or comment. -/
def isPlain (char : Char) : Bool :=
  char == '\t' || (0x20 ≤ char.toNat && char.toNat != 0x7F)

def scalarOf? (digits : List Char) (count : Nat) : Option Char :=
  if digits.length = count then
    (Text.Entity.number? 16 digits).bind fun code =>
      if valid : code.isValidChar then some (Char.ofNatAux code valid) else none
  else none

/-- Reads an escape behind its backslash. -/
def escape? : List Char → Option (Char × List Char)
  | [] => none
  | char :: rest =>
    let coded (count : Nat) : Option (Char × List Char) :=
      (scalarOf? (rest.take count) count).map (·, rest.drop count)
    match char with
    | 'b' => some ('\x08', rest)
    | 't' => some ('\t', rest)
    | 'n' => some ('\n', rest)
    | 'f' => some ('\x0c', rest)
    | 'r' => some ('\r', rest)
    | 'e' => some ('\x1b', rest)
    | '"' => some ('"', rest)
    | '\\' => some ('\\', rest)
    | 'x' => coded 2
    | 'u' => coded 4
    | 'U' => coded 8
    | _ => none

def isSpace (char : Char) : Bool := char == ' ' || char == '\t'

def isSpaceOrBreak (char : Char) : Bool := isSpace char || char == '\n' || char == '\r'

def dropBreak : List Char → List Char
  | '\n' :: rest => rest
  | '\r' :: '\n' :: rest => rest
  | chars => chars

/-- A backslash at the end of a line joins it with the next text. -/
def joinedLine? (chars : List Char) : Option (List Char) :=
  match chars.dropWhile isSpace with
  | '\n' :: rest => some (rest.dropWhile isSpaceOrBreak)
  | '\r' :: '\n' :: rest => some (rest.dropWhile isSpaceOrBreak)
  | _ => none

/-- Reads to the quote that ends a text on one line; each turn takes a character. -/
def lineText (quote : Char) (escapes : Bool) :
    (turns : Nat) → List Char → Option (List Char × List Char)
  | 0, _ => none
  | _ + 1, [] => none
  | turns + 1, char :: rest =>
    if char = quote then some ([], rest)
    else if escapes ∧ char = '\\' then do
      let (escaped, rest) ← escape? rest
      let (text, rest) ← lineText quote escapes turns rest
      return (escaped :: text, rest)
    else if isPlain char then
      (lineText quote escapes turns rest).map fun (text, rest) => (char :: text, rest)
    else none

/-- Up to two quotes may stand before the three that end a text over several lines. -/
def closingQuotes? (quote : Char) (chars : List Char) : Option (List Char × List Char) :=
  let count := (chars.takeWhile (· == quote)).length
  if count < 3 then none
  else
    let extra := min (count - 3) 2
    some (List.replicate extra quote, chars.drop (extra + 3))

/-- Reads to the quotes that end a text over several lines. -/
def blockText (quote : Char) (escapes : Bool) :
    (turns : Nat) → List Char → Option (List Char × List Char)
  | 0, _ => none
  | _ + 1, [] => none
  | turns + 1, char :: rest =>
    match closingQuotes? quote (char :: rest) with
    | some closed => some closed
    | none =>
      if escapes ∧ char = '\\' then
        match joinedLine? rest with
        | some rest => blockText quote escapes turns rest
        | none => do
          let (escaped, rest) ← escape? rest
          let (text, rest) ← blockText quote escapes turns rest
          return (escaped :: text, rest)
      else if char = '\r' then
        match rest with
        | '\n' :: rest =>
          (blockText quote escapes turns rest).map fun (text, rest) => ('\r' :: '\n' :: text, rest)
        | _ => none
      else if char = '\n' ∨ isPlain char then
        (blockText quote escapes turns rest).map fun (text, rest) => (char :: text, rest)
      else none

/-- Reads a text behind its first quote. -/
def quoted? (quote : Char) (chars : List Char) : Option (String × List Char) :=
  let escapes := quote == '"'
  let read :=
    match chars with
    | first :: second :: rest =>
      if first = quote ∧ second = quote then
        blockText quote escapes (rest.length + 1) (dropBreak rest)
      else lineText quote escapes (chars.length + 1) chars
    | chars => lineText quote escapes (chars.length + 1) chars
  read.map fun (text, rest) => (String.ofList text, rest)

/-- A key is a text on one line. -/
def quotedKey? (quote : Char) (chars : List Char) : Option (String × List Char) :=
  (lineText quote (quote == '"') (chars.length + 1) chars).map fun (text, rest) =>
    (String.ofList text, rest)

end Checkup.Toml
