import Checkup.Text.EntityNames
import Std.Data.HashMap

/-!
# Character references

`unescape` replaces each `&name;`, `&#n;` and `&#xh;` by the characters it names and copies
everything else, a failed reference included. A replacement is never read again.
-/

namespace Checkup.Text.Entity

def digitValue? (char : Char) : Option Nat :=
  if '0' ≤ char ∧ char ≤ '9' then some (char.toNat - '0'.toNat)
  else if 'a' ≤ char ∧ char ≤ 'f' then some (char.toNat - 'a'.toNat + 10)
  else if 'A' ≤ char ∧ char ≤ 'F' then some (char.toNat - 'A'.toNat + 10)
  else none

def readDigits (base : Nat) : Nat → List Char → Option Nat
  | value, [] => some value
  | value, char :: rest =>
    match digitValue? char with
    | some digit => if digit < base then readDigits base (value * base + digit) rest else none
    | none => none

/-- The number that a non-empty run of digits writes in a base up to 16. -/
def number? (base : Nat) (digits : List Char) : Option Nat :=
  if digits.isEmpty then none else readDigits base 0 digits

/-- The first number that is no word of 32 bits. -/
def codeLimit : Nat := 4294967296

/-- Reads digits onto a word of 32 bits and gives up where the word would overflow. -/
def readCode (base : Nat) : Nat → List Char → Option Nat
  | value, [] => some value
  | value, char :: rest =>
    match digitValue? char with
    | some digit =>
      if digit < base ∧ value * base + digit < codeLimit then
        readCode base (value * base + digit) rest
      else none
    | none => none

/-- The code point that digits write. They may carry a plus sign. -/
def code? (base : Nat) (written : List Char) : Option Nat :=
  let digits := if written.head? = some '+' then written.tail else written
  if digits.isEmpty then none else readCode base 0 digits

/-- The character with a code point that is a scalar value and not zero. -/
def charOfCode? (code : Nat) : Option Char :=
  if valid : code.isValidChar then
    if code = 0 then none else some (Char.ofNatAux code valid)
  else none

/-- The names that markup itself needs. -/
def markupName? : List Char → Option Char
  | ['a', 'm', 'p'] => some '&'
  | ['l', 't'] => some '<'
  | ['g', 't'] => some '>'
  | ['q', 'u', 'o', 't'] => some '"'
  | ['a', 'p', 'o', 's'] => some '\''
  | _ => none

def readEntry (word : List Char) : Option (String × List Char) :=
  let name := word.takeWhile (· ≠ '=')
  let codes := (word.drop (name.length + 1)).splitOn '+'
  some (String.ofList name, codes.filterMap fun digits => (number? 16 digits).bind charOfCode?)

/-- The table of names as text, read into a map. -/
def readNames (table : String) : Std.HashMap String (List Char) :=
  let words := (table.toList.splitOnP fun char => char = ' ' ∨ char = '\n').filter (!·.isEmpty)
  Std.HashMap.ofList (words.filterMap readEntry)

def names : Std.HashMap String (List Char) := readNames entityNames

def named? (body : List Char) : Option (List Char) :=
  match markupName? body with
  | some char => some [char]
  | none => names[String.ofList body]?

/-- What a reference stands for, given the text between its ampersand and its semicolon. -/
def resolve? (body : List Char) : Option (List Char) :=
  match body with
  | '#' :: 'x' :: digits => ((code? 16 digits).bind charOfCode?).map ([·])
  | '#' :: 'X' :: digits => ((code? 16 digits).bind charOfCode?).map ([·])
  | '#' :: digits => ((code? 10 digits).bind charOfCode?).map ([·])
  | name => named? name

def maxBodyLength : Nat := 32

def isBodyChar (char : Char) : Bool := char.isAlphanum || char == '#'

/-- The text after an ampersand splits into a plausible reference body and what follows its
semicolon. -/
def splitBody? (tail : List Char) : Option (List Char × List Char) :=
  let body := tail.takeWhile isBodyChar
  match tail.dropWhile isBodyChar with
  | ';' :: rest => if body.isEmpty || maxBodyLength < body.length then none else some (body, rest)
  | _ => none

/-- The replacement for a reference at the start of `tail` and the text after it. -/
def reference? (tail : List Char) : Option (List Char × List Char) :=
  match splitBody? tail with
  | some (body, rest) => (resolve? body).map (·, rest)
  | none => none

theorem splitBody?_length {tail body rest : List Char}
    (found : splitBody? tail = some (body, rest)) : rest.length < tail.length := by
  have bound := (List.dropWhile_suffix (l := tail) isBodyChar).length_le
  unfold splitBody? at found
  dsimp only at found
  split at found
  · rename_i split
    rw [split] at bound
    split at found
    · cases found
    · cases found
      exact bound
  · cases found

theorem reference?_length {tail value rest : List Char}
    (found : reference? tail = some (value, rest)) : rest.length < tail.length := by
  unfold reference? at found
  split at found
  · rename_i body after split
    cases resolved : resolve? body with
    | none => simp [resolved] at found
    | some characters =>
      simp [resolved] at found
      exact found.2 ▸ splitBody?_length split
  · cases found

/-- Jumps from ampersand to ampersand. -/
def unescapeChars (text : List Char) : List Char :=
  let plain := text.takeWhile (· != '&')
  match found : text.dropWhile (· != '&') with
  | [] => plain
  | _ :: tail =>
    have shorter : tail.length < text.length := by
      have bound := (List.dropWhile_suffix (l := text) (· != '&')).length_le
      rw [found] at bound
      exact bound
    match resolved : reference? tail with
    | some (value, rest) =>
      have := reference?_length resolved
      plain ++ value ++ unescapeChars rest
    | none => plain ++ '&' :: unescapeChars tail
termination_by text.length

def unescape (text : String) : String :=
  String.ofList (unescapeChars text.toList)

end Checkup.Text.Entity
