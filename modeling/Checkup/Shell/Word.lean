import Checkup.Text.Utf8

/-!
# Words of a script

A script is read byte by byte, each byte shown as the character of its code. A word is made of
parts that are replaced by their values when it is used; what stands in quotes stays in one field.
-/

namespace Checkup

def Bytes.toChars (bytes : Bytes) : List Char := bytes.map fun byte => Char.ofNat byte.toNat

def Bytes.ofChars (chars : List Char) : Bytes := chars.map fun char => UInt8.ofNat char.toNat

namespace Shell

/-- A piece that is cut from the value of a parameter: from its start or end, as short or as long
as a pattern allows. -/
structure Trim where
  atEnd : Bool
  longest : Bool
  pattern : List Char
  deriving DecidableEq, Repr

inductive Part where
  | literal (text : List Char) (quoted : Bool)
  /-- A parameter, with the source of the word that replaces it if it is unset; `whenEmpty` tells
  whether also if it is empty. -/
  | parameter (name : List Char) (fallback : Option (List Char)) (whenEmpty quoted : Bool)
  | length (name : List Char) (quoted : Bool)
  | trimmed (name : List Char) (trim : Trim) (quoted : Bool)
  | arithmetic (source : List Char) (quoted : Bool)
  /-- The output of a script. -/
  | output (source : List Char) (quoted : Bool)
  deriving DecidableEq, Repr

abbrev Word := List Part

def isBlank (char : Char) : Bool := char == ' ' || char == '\t'

def isNameStart (char : Char) : Bool := char.isAlpha || char == '_'

def isNameChar (char : Char) : Bool := char.isAlphanum || char == '_'

/-- Ends a word unless it is quoted. -/
def endsWord (char : Char) : Bool :=
  isBlank char || char == '\n' || ";&|<>()".toList.contains char

/-- Splits at a quote. -/
def splitQuote? (quote : Char) (chars : List Char) : Option (List Char × List Char) :=
  match chars.dropWhile (· ≠ quote) with
  | _ :: rest => some (chars.takeWhile (· ≠ quote), rest)
  | [] => none

/-- Splits at the parenthesis that closes `depth` open ones. -/
def splitClosed? : (turns depth : Nat) → List Char → Option (List Char × List Char)
  | 0, _, _ => none
  | turns + 1, depth, chars =>
    let onward (head : List Char) (depth : Nat) (rest : List Char) :
        Option (List Char × List Char) :=
      (splitClosed? turns depth rest).map fun (inside, rest) => (head ++ inside, rest)
    match chars with
    | [] => none
    | '\\' :: char :: rest => onward ['\\', char] depth rest
    | '\'' :: rest => do
      let (text, rest) ← splitQuote? '\'' rest
      onward ('\'' :: text ++ ['\'']) depth rest
    | '"' :: rest => do
      let (text, rest) ← splitQuote? '"' rest
      onward ('"' :: text ++ ['"']) depth rest
    | '(' :: rest => onward ['('] (depth + 1) rest
    | ')' :: rest => if depth = 1 then some ([], rest) else onward [')'] (depth - 1) rest
    | char :: rest => onward [char] depth rest

/-- Reads what stands between the braces of a parameter. -/
def bracedPart? (quoted : Bool) (body : List Char) : Option Part :=
  match body with
  | '#' :: char :: rest => some (.length (char :: rest) quoted)
  | char :: _ =>
    let isName := isNameStart char
    let name := if isName then body.takeWhile isNameChar else [char]
    match body.drop name.length with
    | [] => some (.parameter name none false quoted)
    | ':' :: '-' :: source => some (.parameter name (some source) true quoted)
    | '-' :: source => some (.parameter name (some source) false quoted)
    | '%' :: '%' :: pattern => some (.trimmed name ⟨true, true, pattern⟩ quoted)
    | '%' :: pattern => some (.trimmed name ⟨true, false, pattern⟩ quoted)
    | '#' :: '#' :: pattern => some (.trimmed name ⟨false, true, pattern⟩ quoted)
    | '#' :: pattern => some (.trimmed name ⟨false, false, pattern⟩ quoted)
    | _ => none
  | [] => none

/-- Reads what a dollar sign begins. -/
def dollarPart? (quoted : Bool) (chars : List Char) : Option (Part × List Char) :=
  match chars with
  | '(' :: rest => do
    let (inside, rest) ← splitClosed? (rest.length + 1) 1 rest
    match inside, inside.getLast? with
    | '(' :: source, some ')' => some (.arithmetic source.dropLast quoted, rest)
    | source, _ => some (.output source quoted, rest)
  | '\x7b' :: rest => do
    let (body, rest) ← splitQuote? '\x7d' rest
    return (← bracedPart? quoted body, rest)
  | char :: rest =>
    if isNameStart char then
      let name := chars.takeWhile isNameChar
      some (.parameter name none false quoted, chars.drop name.length)
    else if char.isDigit || "@*#?$!-".toList.contains char then
      some (.parameter [char] none false quoted, rest)
    else some (.literal ['$'] quoted, chars)
  | [] => some (.literal ['$'] quoted, [])

def prependLiteral (char : Char) (quoted : Bool) : Word → Word
  | .literal text other :: parts =>
    if other = quoted then .literal (char :: text) quoted :: parts
    else .literal [char] quoted :: .literal text other :: parts
  | parts => .literal [char] quoted :: parts

/-- Where the parts of a word stand. -/
inductive Quoting where
  | bare
  | quotes
  | document
  deriving DecidableEq, Repr

/-- A backslash takes the meaning from any bare character, and from a few quoted ones. -/
def Quoting.escapes (quoting : Quoting) (char : Char) : Bool :=
  match quoting with
  | .bare => true
  | .quotes => "$\x60\"\\".toList.contains char
  | .document => "$\x60\\".toList.contains char

/-- Reads parts up to the end of the word, of the quotes or of the document. -/
def parts? : (turns : Nat) → Quoting → List Char → Option (Word × List Char)
  | 0, _, _ => none
  | turns + 1, quoting, chars =>
    let quoted : Bool := quoting != .bare
    let literal (char : Char) (isQuoted : Bool) (rest : List Char) : Option (Word × List Char) :=
      (parts? turns quoting rest).map fun (word, rest) => (prependLiteral char isQuoted word, rest)
    match chars with
    | [] => if quoting = .quotes then none else some ([], [])
    | '"' :: rest =>
      match quoting with
      | .quotes => some ([], rest)
      | .document => literal '"' true rest
      | .bare => do
        let (inside, rest) ← parts? turns .quotes rest
        let (word, rest) ← parts? turns .bare rest
        return (.literal [] true :: inside ++ word, rest)
    | '\\' :: '\n' :: rest => parts? turns quoting rest
    | '\\' :: char :: rest =>
      if quoting.escapes char then literal char true rest else literal '\\' true (char :: rest)
    | '$' :: rest => do
      let (part, rest) ← dollarPart? quoted rest
      let (word, rest) ← parts? turns quoting rest
      return (part :: word, rest)
    | '\x60' :: rest => do
      let (source, rest) ← splitQuote? '\x60' rest
      let (word, rest) ← parts? turns quoting rest
      return (.output source quoted :: word, rest)
    | '\'' :: rest =>
      if quoted then literal '\'' true rest
      else do
        let (text, rest) ← splitQuote? '\'' rest
        let (word, rest) ← parts? turns .bare rest
        return (.literal text true :: word, rest)
    | char :: rest =>
      if !quoted && endsWord char then some ([], chars) else literal char quoted rest

/-- Reads a word. -/
def word? (chars : List Char) : Option (Word × List Char) := parts? (chars.length + 1) .bare chars

/-- Reads a whole text, in which values are filled in. -/
def documentWord? (text : List Char) : Option Word :=
  (parts? (text.length + 1) .document text).map (·.1)

/-- The text of a word that has no values to fill in. -/
def Word.plain? (word : Word) : Option (List Char) :=
  (word.mapM fun (part : Part) =>
    match part with
    | .literal text _ => some text
    | _ => none).map List.flatten

/-- Whether some of a word is quoted. -/
def Word.isQuoted (word : Word) : Bool :=
  word.any fun (part : Part) =>
    match part with
    | .literal _ quoted => quoted
    | _ => false

/-- A word that is a key word where a command begins. -/
def Word.bare? : Word → Option String
  | [.literal text false] => some (String.ofList text)
  | _ => none

end Shell

end Checkup
