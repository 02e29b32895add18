import Checkup.Pattern.CharTable
import Checkup.Pattern.Ranges

/-!
# Classes of characters

Reads the tables of character properties into sets of code points and finds a property by its
name, regardless of case, blanks, hyphens and underscores.
-/

namespace Checkup.Pattern.CharClass

def topCode : Nat := 0x10FFFF

def hexValue? (char : Char) : Option Nat :=
  if '0' ≤ char ∧ char ≤ '9' then some (char.toNat - '0'.toNat)
  else if 'a' ≤ char ∧ char ≤ 'f' then some (char.toNat - 'a'.toNat + 10)
  else none

def hexNumber (digits : List Char) : Nat :=
  digits.foldl (fun value char => value * 16 + (hexValue? char).getD 0) 0

def codeLetter? (char : Char) : Option Nat :=
  if 'g' ≤ char ∧ char ≤ 'z' then some (char.toNat - 'g'.toNat)
  else if 'G' ≤ char ∧ char ≤ 'Z' then some (char.toNat - 'G'.toNat + 20)
  else none

/-! ## Runs -/

/-- A value and how many code points in a row have it. -/
structure Run where
  value : Nat
  digits : List Char

def Run.count (run : Run) : Nat := if run.digits.isEmpty then 1 else hexNumber run.digits

/-- A code has `width` letters; `pending` letters of the next one are already read. -/
def readRuns (width : Nat) : (pending value : Nat) → List Char → List Run
  | _, _, [] => []
  | pending, value, char :: rest =>
    match codeLetter? char with
    | none => readRuns width pending value rest
    | some letter =>
      let value := value * 40 + letter
      if pending + 1 < width then readRuns width (pending + 1) value rest
      else ⟨value, rest.takeWhile fun next => (hexValue? next).isSome⟩ :: readRuns width 0 0 rest

/-- The code points whose value is wanted. -/
def select (wanted : Nat → Bool) : (start : Nat) → List Run → Ranges
  | _, [] => []
  | start, run :: rest =>
    let next := start + run.count
    if wanted run.value then (start, next - 1) :: select wanted next rest
    else select wanted next rest

/-! ## Gaps -/

def readGaps : (position : Nat) → (words : List (List Char)) → Ranges
  | _, [] => []
  | position, word :: rest =>
    let gap := word.takeWhile (· != '+')
    let first := position + hexNumber gap
    let last := first + hexNumber (word.drop (gap.length + 1))
    (first, last) :: readGaps last rest

def words (text : String) : List (List Char) :=
  (text.toList.splitOnP fun char => char == ' ' || char == '\n').filter (!·.isEmpty)

/-! ## Properties -/

/-- The position of the entry that holds the name among its spellings. -/
def indexOf? (names name : String) : Option Nat :=
  (words names).findIdx? fun entry => (entry.splitOn '=').contains name.toList

def categories (wanted : List String) : Ranges :=
  let values := wanted.filterMap (indexOf? CharTable.categoryNames)
  Ranges.ofList
    (select values.contains 0 (readRuns 1 0 0 CharTable.categoryRuns.toList))

def categoryGroup? : String → Option (List String)
  | "c" | "other" => some ["cc", "cf", "co", "cn"]
  | "l" | "letter" => some ["lu", "ll", "lt", "lm", "lo"]
  | "lc" | "casedletter" => some ["lu", "ll", "lt"]
  | "m" | "mark" | "combiningmark" => some ["mn", "mc", "me"]
  | "n" | "number" => some ["nd", "nl", "no"]
  | "p" | "punctuation" | "punct" => some ["pc", "pd", "ps", "pe", "pi", "pf", "po"]
  | "s" | "symbol" => some ["sm", "sc", "sk", "so"]
  | "z" | "separator" => some ["zs", "zl", "zp"]
  | _ => none

/-- Surrogates are no characters, so their category has no class. -/
def category? (name : String) : Option Ranges :=
  match name with
  | "any" => some [(0, topCode)]
  | "ascii" => some [(0, 0x7F)]
  | "assigned" => some ((categories ["cn"]).complement topCode)
  | "cs" | "surrogate" => none
  | name =>
    match categoryGroup? name with
    | some group => some (categories group)
    | none => (indexOf? CharTable.categoryNames name).map fun _ => categories [name]

def script? (name : String) : Option Ranges :=
  (indexOf? CharTable.scriptNames name).map fun index =>
    select (· == index) 0 (readRuns 2 0 0 CharTable.scriptRuns.toList)

def space : Ranges :=
  [(0x09, 0x0D), (0x20, 0x20), (0x85, 0x85), (0xA0, 0xA0), (0x1680, 0x1680), (0x2000, 0x200A),
    (0x2028, 0x2029), (0x202F, 0x202F), (0x205F, 0x205F), (0x3000, 0x3000)]

/-- The letters of ASCII, and those that the table counts from there. -/
def alphabetic : Ranges :=
  (0x41, 0x5A) :: (0x61, 0x7A) :: readGaps 0x7A (words CharTable.alphabetic)

/-- A property that a character has or has not. -/
def binary? : String → Option Ranges
  | "alphabetic" | "alpha" => some alphabetic
  | "lowercase" | "lower" => some (readGaps 0 (words CharTable.lowercase))
  | "uppercase" | "upper" => some (readGaps 0 (words CharTable.uppercase))
  | "whitespace" | "wspace" | "space" => some space
  | "joincontrol" | "joinc" => some [(0x200C, 0x200D)]
  | _ => none

def digit : Ranges := categories ["nd"]

def word : Ranges :=
  Ranges.ofList (alphabetic ++ categories ["mn", "mc", "me", "nd", "pc"] ++ [(0x200C, 0x200D)])

/-- For membership alone: the ranges of numbers stand behind those of letters. -/
def alphanumeric : Ranges := alphabetic ++ categories ["nd", "nl", "no"]

/-- The name in the form in which names are compared. -/
def normalizeName (name : List Char) : String :=
  let plain := name.filterMap fun char =>
    if char == ' ' || char == '_' || char == '-' || 0x80 ≤ char.toNat then none
    else some char.toLower
  match name.take 2 |>.map Char.toLower with
  | ['i', 's'] =>
    if plain.drop 2 == ['c'] then "isc" else String.ofList (plain.drop 2)
  | _ => String.ofList plain

def named? (name : List Char) : Option Ranges :=
  let name := normalizeName name
  let property := if name == "cf" || name == "sc" || name == "lc" then none else binary? name
  property <|> category? name <|> script? name

def valued? (property value : List Char) : Option Ranges :=
  match normalizeName property with
  | "gc" | "generalcategory" => category? (normalizeName value)
  | "sc" | "script" => script? (normalizeName value)
  | _ => none

/-! ## Case -/

/-- Each letter with the letter that stands for all its cases. -/
def readFold (word : List Char) : List (Nat × Nat) :=
  let numbers := word.splitOnP fun char => char == '/' || char == '+' || char == '-'
  match numbers.map hexNumber with
  | [first, count, stride, distance] =>
    (List.range count).map fun index =>
      let letter := first + index * stride
      (letter, if word.contains '-' then letter - distance else letter + distance)
  | _ => []

def folds : List (Nat × Nat) := (words CharTable.caseFolds).flatMap readFold

/-- The set with all cases of its letters. -/
def foldCase (ranges : Ranges) : Ranges :=
  let images := folds.filterMap fun (letter, image) =>
    if ranges.contains letter then some (image, image) else none
  let closed := Ranges.union ranges images
  let letters := folds.filterMap fun (letter, image) =>
    if closed.contains image then some (letter, letter) else none
  Ranges.union closed letters

end Checkup.Pattern.CharClass
