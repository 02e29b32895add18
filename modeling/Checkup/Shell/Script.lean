import Checkup.Shell.Word

/-!
# Scripts

The commands of a script, read from its tokens. A document that is written into a script is a
token of its own.
-/

namespace Checkup.Shell

inductive Redirection where
  /-- Writes a stream to a file. -/
  | toFile (stream : Nat) (file : Word)
  | toStream (stream : Nat) (other : Word)
  | fromFile (file : Word)
  | fromText (text : Word)
  deriving DecidableEq, Repr

inductive Command where
  | nothing
  | simple (assignments : List (List Char × Word)) (words : List Word)
      (redirections : List Redirection)
  | redirected (body : Command) (redirections : List Redirection)
  | sequence (first second : Command)
  | both (first second : Command)
  | either (first second : Command)
  | negated (body : Command)
  | pipe (source sink : Command)
  | subshell (body : Command)
  | choose (test positive negative : Command)
  | loop (whileFails : Bool) (test body : Command)
  /-- Without items the positional parameters are gone through. -/
  | forEach (name : List Char) (items : Option (List Word)) (body : Command)
  | whenMatches (subject : Word) (patterns : List Word) (body otherwise : Command)
  | define (name : List Char) (body : Command)
  deriving DecidableEq, Repr

/-! ## Tokens -/

inductive Token where
  | word (word : Word)
  | operator (text : String)
  | redirect (redirection : Redirection)
  deriving DecidableEq, Repr

def newline : Token := .operator "\n"

def operators : List String := [";;", ";", "&&", "&", "||", "|", "(", ")", "\n"]

def redirectOperators : List String := ["<<-", "<<", "<&", "<", ">>", ">&", ">|", ">"]

/-- Takes the lines up to one that is the delimiter. -/
def documentLines : (delimiter : List Char) → (stripTabs : Bool) → List (List Char) →
    List (List Char) × List (List Char)
  | _, _, [] => ([], [])
  | delimiter, stripTabs, line :: lines =>
    let line := if stripTabs then line.dropWhile (· == '\t') else line
    if line = delimiter then ([], lines)
    else
      let (body, rest) := documentLines delimiter stripTabs lines
      ((line ++ ['\n']) :: body, rest)

/-- Takes a document out of a text; it begins behind the line at hand. -/
def takeDocument (delimiter : List Char) (stripTabs : Bool) (chars : List Char) :
    List Char × List Char :=
  match chars.splitOn '\n' with
  | line :: lines =>
    let (body, rest) := documentLines delimiter stripTabs lines
    (body.flatten, ['\n'].intercalate (line :: rest))
  | [] => ([], [])

def redirection? (operator : String) (stream : Option Nat) (word : Word) : Option Redirection :=
  match operator with
  | ">" | ">>" | ">|" => some (.toFile (stream.getD 1) word)
  | ">&" => some (.toStream (stream.getD 1) word)
  | "<&" => some (.toStream (stream.getD 0) word)
  | "<" => some (.fromFile word)
  | _ => none

/-- Reads what stands behind a redirection operator. -/
def redirectToken? (operator : String) (stream : Option Nat) (chars : List Char) :
    Option (Token × List Char) := do
  let (word, rest) ← word? (chars.dropWhile isBlank)
  if word.isEmpty then failure
  if operator = "<<" ∨ operator = "<<-" then
    let delimiter ← word.plain?
    let (body, rest) := takeDocument delimiter (operator = "<<-") rest
    let text ← if word.isQuoted then some [.literal body true] else documentWord? body
    return (.redirect (.fromText text), rest)
  else return (.redirect (← redirection? operator stream word), rest)

def operatorAt? (operators : List String) (chars : List Char) : Option String :=
  operators.find? fun operator => operator.toList.isPrefixOf chars

def tokens? : (turns : Nat) → List Char → Option (List Token)
  | 0, _ => none
  | turns + 1, chars =>
    match chars.dropWhile isBlank with
    | [] => some []
    | '#' :: rest => tokens? turns (rest.dropWhile (· ≠ '\n'))
    | '\\' :: '\n' :: rest => tokens? turns rest
    | chars =>
      let digits := chars.takeWhile Char.isDigit
      let behind := chars.drop digits.length
      match operatorAt? redirectOperators behind with
      | some operator => do
        let stream := if digits.isEmpty then none else (String.ofList digits).toNat?
        let (token, rest) ← redirectToken? operator stream (behind.drop operator.length)
        return token :: (← tokens? turns rest)
      | none =>
        match operatorAt? operators chars with
        | some operator => do
          return .operator operator :: (← tokens? turns (chars.drop operator.length))
        | none => do
          let (word, rest) ← word? chars
          return .word word :: (← tokens? turns rest)

/-! ## Commands -/

def skipLines (tokens : List Token) : List Token := tokens.dropWhile (· == newline)

/-- The key word at hand. -/
def keyWord? : List Token → Option String
  | .word word :: _ => word.bare?
  | _ => none

/-- Passes over a key word. -/
def expect? (name : String) (tokens : List Token) : Option (List Token) :=
  let tokens := skipLines tokens
  if keyWord? tokens = some name then some (tokens.drop 1) else none

def endsList (tokens : List Token) : Bool :=
  match tokens with
  | [] => true
  | .operator text :: _ => text == ")" || text == ";;"
  | _ =>
    (keyWord? tokens).any
      ["then", "else", "elif", "fi", "do", "done", "esac", "\x7d"].contains

/-- The name and value of a word that assigns. -/
def assignment? : Word → Option (List Char × Word)
  | .literal text false :: parts =>
    let name := text.takeWhile isNameChar
    match text.drop name.length, name.head?.any isNameStart with
    | '=' :: value, true =>
      some (name, if value.isEmpty then parts else .literal value false :: parts)
    | _, _ => none
  | _ => none

def takeRedirections : List Token → List Redirection × List Token
  | .redirect redirection :: rest =>
    let (more, rest) := takeRedirections rest
    (redirection :: more, rest)
  | rest => ([], rest)

/-- Reads the rest of a simple command. Assignments stand before its words. -/
def simple (assignments : List (List Char × Word)) (words : List Word)
    (redirections : List Redirection) : List Token → Command × List Token
  | .word word :: rest =>
    match if words.isEmpty then assignment? word else none with
    | some assignment => simple (assignments ++ [assignment]) words redirections rest
    | none => simple assignments (words ++ [word]) redirections rest
  | .redirect redirection :: rest =>
    simple assignments words (redirections ++ [redirection]) rest
  | rest => (.simple assignments words redirections, rest)

def takeWords : List Token → List Word × List Token
  | .word word :: rest =>
    let (words, rest) := takeWords rest
    (word :: words, rest)
  | rest => ([], rest)

/-- Takes the patterns before the parenthesis of an arm. -/
def armPatterns? : List Token → Option (List Word × List Token)
  | .word word :: .operator "|" :: rest => do
    let (words, rest) ← armPatterns? rest
    return (word :: words, rest)
  | .word word :: .operator ")" :: rest => some ([word], rest)
  | _ => none

mutual

def list? : (turns : Nat) → List Token → Option (Command × List Token)
  | 0, _ => none
  | turns + 1, tokens => do
    let tokens := skipLines tokens
    if endsList tokens then return (.nothing, tokens)
    let (first, rest) ← chain? turns tokens
    match rest with
    | .operator text :: rest =>
      if text = ";" ∨ text = "&" ∨ text = "\n" then
        match ← list? turns rest with
        | (.nothing, rest) => return (first, rest)
        | (second, rest) => return (.sequence first second, rest)
      else return (first, .operator text :: rest)
    | rest => return (first, rest)

def chain? : (turns : Nat) → List Token → Option (Command × List Token)
  | 0, _ => none
  | turns + 1, tokens => do
    let (first, rest) ← pipeline? turns tokens
    chainFrom? turns first rest

def chainFrom? : (turns : Nat) → Command → List Token → Option (Command × List Token)
  | 0, _, _ => none
  | turns + 1, first, tokens =>
    match tokens with
    | .operator "&&" :: rest => do
      let (second, rest) ← pipeline? turns (skipLines rest)
      chainFrom? turns (.both first second) rest
    | .operator "||" :: rest => do
      let (second, rest) ← pipeline? turns (skipLines rest)
      chainFrom? turns (.either first second) rest
    | rest => some (first, rest)

def pipeline? : (turns : Nat) → List Token → Option (Command × List Token)
  | 0, _ => none
  | turns + 1, tokens =>
    if keyWord? tokens = some "!" then do
      let (body, rest) ← pipeline? turns (tokens.drop 1)
      return (.negated body, rest)
    else do
      let (source, rest) ← command? turns tokens
      match rest with
      | .operator "|" :: rest => do
        let (sink, rest) ← pipeline? turns (skipLines rest)
        return (.pipe source sink, rest)
      | rest => return (source, rest)

def command? : (turns : Nat) → List Token → Option (Command × List Token)
  | 0, _ => none
  | turns + 1, tokens => do
    let close (body : Command) (tokens : List Token) : Command × List Token :=
      match takeRedirections tokens with
      | ([], rest) => (body, rest)
      | (redirections, rest) => (.redirected body redirections, rest)
    match tokens with
    | .operator "(" :: rest =>
      let (body, rest) ← list? turns rest
      match rest with
      | .operator ")" :: rest => return close (.subshell body) rest
      | _ => none
    | .word word :: .operator "(" :: .operator ")" :: rest =>
      let name ← word.plain?
      let (body, rest) ← command? turns (skipLines rest)
      return (.define name body, rest)
    | _ =>
      match keyWord? tokens with
      | some "\x7b" =>
        let (body, rest) ← list? turns (tokens.drop 1)
        return close body (← expect? "\x7d" rest)
      | some "if" =>
        let (body, rest) ← condition? turns (tokens.drop 1)
        return close body rest
      | some "while" | some "until" =>
        let (test, rest) ← list? turns (tokens.drop 1)
        let (body, rest) ← list? turns (← expect? "do" rest)
        return close (.loop (keyWord? tokens == some "until") test body) (← expect? "done" rest)
      | some "for" =>
        match tokens.drop 1 with
        | .word word :: rest =>
          let name ← word.plain?
          let rest := skipLines rest
          let (items, rest) :=
            if keyWord? rest = some "in" then
              let (words, rest) := takeWords (rest.drop 1)
              (some words, rest)
            else (none, rest)
          let rest := if rest.head? = some (.operator ";") then rest.drop 1 else rest
          let (body, rest) ← list? turns (← expect? "do" rest)
          return close (.forEach name items body) (← expect? "done" rest)
        | _ => none
      | some "case" =>
        match tokens.drop 1 with
        | .word subject :: rest =>
          let (body, rest) ← arms? turns subject (← expect? "in" rest)
          return close body rest
        | _ => none
      | _ =>
        match simple [] [] [] tokens with
        | (.simple [] [] [], _) => none
        | result => return result

/-- Reads a condition behind its key word. -/
def condition? : (turns : Nat) → List Token → Option (Command × List Token)
  | 0, _ => none
  | turns + 1, tokens => do
    let (test, rest) ← list? turns tokens
    let (positive, rest) ← list? turns (← expect? "then" rest)
    match keyWord? rest with
    | some "elif" =>
      let (negative, rest) ← condition? turns (rest.drop 1)
      return (.choose test positive negative, rest)
    | some "else" =>
      let (negative, rest) ← list? turns (rest.drop 1)
      return (.choose test positive negative, ← expect? "fi" rest)
    | _ => return (.choose test positive .nothing, ← expect? "fi" rest)

def arms? : (turns : Nat) → (subject : Word) → List Token → Option (Command × List Token)
  | 0, _, _ => none
  | turns + 1, subject, tokens => do
    let tokens := skipLines tokens
    if keyWord? tokens = some "esac" then return (.nothing, tokens.drop 1)
    let tokens := if tokens.head? = some (.operator "(") then tokens.drop 1 else tokens
    let (patterns, rest) ← armPatterns? tokens
    let (body, rest) ← list? turns rest
    let rest := if rest.head? = some (.operator ";;") then rest.drop 1 else rest
    let (otherwise, rest) ← arms? turns subject rest
    return (.whenMatches subject patterns body otherwise, rest)

end

/-- The command that a script is. -/
def readScript? (chars : List Char) : Option Command := do
  let tokens ← tokens? (chars.length + 1) chars
  match ← list? (8 * tokens.length + 8) tokens with
  | (command, []) => some command
  | _ => none

end Checkup.Shell
