/-!
# JSON text

Values with their fields in order, printed with an indent of two blanks for each level.
-/

namespace Checkup

inductive Json where
  | truth (value : Bool)
  | number (value : Nat)
  | text (value : String)
  | list (items : List Json)
  | object (fields : List (String × Json))

namespace Json

def hexDigit (value : Nat) : Char :=
  if value < 10 then Char.ofNat ('0'.toNat + value) else Char.ofNat ('a'.toNat + (value - 10))

/-- Only quotes, backslashes and control characters are escaped. -/
def escapeChar (char : Char) : List Char :=
  if char = '"' then ['\\', '"']
  else if char = '\\' then ['\\', '\\']
  else if char = '\n' then ['\\', 'n']
  else if char = '\r' then ['\\', 'r']
  else if char = '\t' then ['\\', 't']
  else if char.toNat = 8 then ['\\', 'b']
  else if char.toNat = 12 then ['\\', 'f']
  else if char.toNat < 0x20 then
    ['\\', 'u', '0', '0', hexDigit (char.toNat / 16), hexDigit (char.toNat % 16)]
  else [char]

def quote (text : String) : String :=
  "\"" ++ String.ofList (text.toList.flatMap escapeChar) ++ "\""

def indent (level : Nat) : String := "".pushn ' ' (2 * level)

mutual

def pretty (level : Nat) : Json → String
  | .truth value => if value then "true" else "false"
  | .number value => toString value
  | .text value => quote value
  | .list [] => "[]"
  | .list (item :: rest) =>
    "[\n" ++ indent (level + 1) ++ pretty (level + 1) item ++ prettyItems (level + 1) rest ++ "\n" ++
      indent level ++ "]"
  | .object [] => "\x7b\x7d"
  | .object ((name, value) :: rest) =>
    "\x7b\n" ++ indent (level + 1) ++ quote name ++ ": " ++ pretty (level + 1) value ++
      prettyFields (level + 1) rest ++ "\n" ++ indent level ++ "\x7d"

def prettyItems (level : Nat) : List Json → String
  | [] => ""
  | item :: rest => ",\n" ++ indent level ++ pretty level item ++ prettyItems level rest

def prettyFields (level : Nat) : List (String × Json) → String
  | [] => ""
  | (name, value) :: rest =>
    ",\n" ++ indent level ++ quote name ++ ": " ++ pretty level value ++ prettyFields level rest

end

def render (value : Json) : String := pretty 0 value

end Json

end Checkup
