import Checkup.Shell.Word

/-!
# Arithmetic of a script

Expressions over whole numbers. A name stands for the number it holds, and for zero if it holds
none; a comparison is one or zero.
-/

namespace Checkup.Shell

def isSpaceOrLine (char : Char) : Bool := isBlank char || char == '\n'

/-- The number that a text writes, with a sign and blanks around it. -/
def integer? (text : List Char) : Option Int :=
  let trimmed := ((text.dropWhile isSpaceOrLine).reverse.dropWhile isSpaceOrLine).reverse
  let (negative, digits) :=
    match trimmed with
    | '-' :: digits => (true, digits)
    | '+' :: digits => (false, digits)
    | digits => (false, digits)
  if !digits.isEmpty && digits.all Char.isDigit then
    let value : Nat := digits.foldl (fun value digit => value * 10 + (digit.toNat - '0'.toNat)) 0
    some (if negative then -(value : Int) else value)
  else none

namespace Arithmetic

def ofBool (holds : Bool) : Int := if holds then 1 else 0

/-- Operators that take two numbers, those that bind weakest first. -/
def levels : List (List String) :=
  [["||"], ["&&"], ["|"], ["^"], ["&"], ["==", "!="], ["<=", ">=", "<", ">"], ["<<", ">>"],
    ["+", "-"], ["*", "/", "%"]]

/-- The value of two numbers under an operator. A division by zero has none. -/
def combine? (operator : String) (left right : Int) : Option Int :=
  match operator with
  | "||" => some (ofBool (left != 0 || right != 0))
  | "&&" => some (ofBool (left != 0 && right != 0))
  | "==" => some (ofBool (left == right))
  | "!=" => some (ofBool (left != right))
  | "<=" => some (ofBool (left ≤ right))
  | ">=" => some (ofBool (right ≤ left))
  | "<" => some (ofBool (left < right))
  | ">" => some (ofBool (right < left))
  | "+" => some (left + right)
  | "-" => some (left - right)
  | "*" => some (left * right)
  | "/" => if right = 0 then none else some (left.tdiv right)
  | "%" => if right = 0 then none else some (left.tmod right)
  | _ => none

/-- The operator of a level that begins a text, unless it begins a longer one. -/
def operatorAt? (level : List String) (chars : List Char) : Option String :=
  let longest := (levels.flatten.filter fun operator => operator.toList.isPrefixOf chars).foldl
    (fun best operator => if best.length < operator.length then operator else best) ""
  if level.contains longest then some longest else none

mutual

def level? (value : List Char → List Char) :
    (turns : Nat) → List (List String) → List Char → Option (Int × List Char)
  | 0, _, _ => none
  | turns + 1, [], chars => atom? value turns chars
  | turns + 1, level :: tighter, chars => do
    let (left, rest) ← level? value turns tighter chars
    onward? value turns level tighter left rest

/-- Reads further operators of one level. -/
def onward? (value : List Char → List Char) :
    (turns : Nat) → List String → List (List String) → Int → List Char → Option (Int × List Char)
  | 0, _, _, _, _ => none
  | turns + 1, level, tighter, left, chars => do
    let chars := chars.dropWhile isSpaceOrLine
    match operatorAt? level chars with
    | none => some (left, chars)
    | some operator => do
      let (right, rest) ← level? value turns tighter (chars.drop operator.length)
      onward? value turns level tighter (← combine? operator left right) rest

def atom? (value : List Char → List Char) : (turns : Nat) → List Char → Option (Int × List Char)
  | 0, _ => none
  | turns + 1, chars =>
    match chars.dropWhile isSpaceOrLine with
    | '(' :: rest => do
      let (inside, rest) ← level? value turns levels rest
      match rest.dropWhile isSpaceOrLine with
      | ')' :: rest => some (inside, rest)
      | _ => none
    | '-' :: rest => (atom? value turns rest).map fun (number, rest) => (-number, rest)
    | '+' :: rest => atom? value turns rest
    | '!' :: rest =>
      (atom? value turns rest).map fun (number, rest) => (ofBool (number == 0), rest)
    | '$' :: rest => atom? value turns rest
    | chars =>
      let word := chars.takeWhile isNameChar
      let rest := chars.drop word.length
      if word.head?.any Char.isDigit then (integer? word).map fun number => (number, rest)
      else if word.isEmpty then none
      else some ((integer? (value word)).getD 0, rest)

end

/-- The value of an expression, `value` telling what the names hold. -/
def evaluate? (value : List Char → List Char) (expression : List Char) : Option Int :=
  match level? value (16 * expression.length + 32) levels expression with
  | some (number, rest) => if rest.all isSpaceOrLine then some number else none
  | none => none

end Arithmetic

end Checkup.Shell
