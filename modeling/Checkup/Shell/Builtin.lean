import Checkup.FileTree
import Checkup.Shell.Arithmetic

/-!
# Small programs

What the programs write that need nothing but their arguments, and the conditions that a script
tests.
-/

namespace Checkup.Shell

/-! ## Writing texts -/

def controlEscape? (letter : Char) : Option Char :=
  match letter with
  | 'a' => some '\x07'
  | 'b' => some '\x08'
  | 'f' => some '\x0c'
  | 'n' => some '\n'
  | 'r' => some '\r'
  | 't' => some '\t'
  | 'v' => some '\x0b'
  | '\\' => some '\\'
  | _ => none

def isOctal (char : Char) : Bool := '0' ≤ char && char ≤ '7'

/-- The byte that octal digits name. -/
def octalByte (digits : List Char) : Char :=
  Char.ofNat (digits.foldl (fun value digit => value * 8 + (digit.toNat - '0'.toNat)) 0 % 256)

/-- Reads an escape behind its backslash. An octal one has up to three digits, in an argument after a
zero that does not count. -/
def takeEscape (inFormat : Bool) (chars : List Char) : List Char × List Char :=
  match chars with
  | [] => (['\\'], [])
  | char :: rest =>
    let leading : Nat := if !inFormat && char == '0' then 1 else 0
    let digits := ((chars.drop leading).take 3).takeWhile isOctal
    if digits.isEmpty && leading == 0 then
      match controlEscape? char with
      | some control => ([control], rest)
      | none => (['\\', char], rest)
    else ([octalByte digits], chars.drop (leading + digits.length))

def unescape : (turns : Nat) → List Char → List Char
  | 0, chars => chars
  | turns + 1, chars =>
    match chars with
    | [] => []
    | '\\' :: rest =>
      let (text, rest) := takeEscape false rest
      text ++ unescape turns rest
    | char :: rest => char :: unescape turns rest

def spaced (words : List (List Char)) : List Char := [' '].intercalate words

/-- What is written for `echo`. -/
def echoed (words : List (List Char)) : List Char :=
  let text (words : List (List Char)) : List Char :=
    let joined := spaced words
    unescape joined.length joined
  match words with
  | ['-', 'n'] :: rest => text rest
  | _ => text words ++ ['\n']

/-- How a value is laid out. -/
structure Layout where
  leftAligned : Bool := false
  zeroFilled : Bool := false
  width : Nat := 0
  precision : Option Nat := none

def Layout.fill (layout : Layout) (text : List Char) : List Char :=
  let missing := layout.width - text.length
  if layout.leftAligned then text ++ List.replicate missing ' '
  else if layout.zeroFilled then
    match text with
    | '-' :: digits => '-' :: List.replicate missing '0' ++ digits
    | digits => List.replicate missing '0' ++ digits
  else List.replicate missing ' ' ++ text

def natOfDigits (digits : List Char) : Nat := ((String.ofList digits).toNat?).getD 0

/-- Reads flags, width and precision behind a percent sign. -/
def takeLayout (chars : List Char) : Layout × List Char :=
  let flags := chars.takeWhile fun char => "-0+ #".toList.contains char
  let chars := chars.drop flags.length
  let width := chars.takeWhile Char.isDigit
  let chars := chars.drop width.length
  let (precision, chars) :=
    match chars with
    | '.' :: rest =>
      let digits := rest.takeWhile Char.isDigit
      (some (natOfDigits digits), rest.drop digits.length)
    | chars => (none, chars)
  ({ leftAligned := flags.contains '-', zeroFilled := flags.contains '0'
     width := natOfDigits width, precision }, chars)

/-- The text of an argument under a directive. -/
def formatted? (letter : Char) (layout : Layout) (argument : List Char) : Option (List Char) :=
  let number : Int := (integer? argument).getD 0
  let cut (text : List Char) : List Char := text.take (layout.precision.getD text.length)
  let digits (base : Nat) : List Char := Nat.toDigits base number.toNat
  match letter with
  | 's' => some (layout.fill (cut argument))
  | 'b' => some (layout.fill (cut (unescape argument.length argument)))
  | 'c' => some (layout.fill (argument.take 1))
  | 'd' | 'i' | 'u' => some (layout.fill (toString number).toList)
  | 'o' => some (layout.fill (digits 8))
  | 'x' => some (layout.fill (digits 16))
  | 'X' => some (layout.fill ((digits 16).map Char.toUpper))
  | _ => none

/-- Goes once through a format and tells which arguments are left. -/
def formatOnce : (turns : Nat) → (format : List Char) → (arguments : List (List Char)) →
    List Char × List (List Char)
  | 0, _, arguments => ([], arguments)
  | turns + 1, format, arguments =>
    match format with
    | [] => ([], arguments)
    | '\\' :: rest =>
      let (text, rest) := takeEscape true rest
      let (more, arguments) := formatOnce turns rest arguments
      (text ++ more, arguments)
    | '%' :: '%' :: rest =>
      let (more, arguments) := formatOnce turns rest arguments
      ('%' :: more, arguments)
    | '%' :: rest =>
      let (layout, rest) := takeLayout rest
      match rest with
      | letter :: rest =>
        match formatted? letter layout (arguments.headD []) with
        | some text =>
          let (more, arguments) := formatOnce turns rest arguments.tail
          (text ++ more, arguments)
        | none => ([], [])
      | [] => ([], [])
    | char :: rest =>
      let (more, arguments) := formatOnce turns rest arguments
      (char :: more, arguments)

/-- Goes through the format until no argument is left. -/
def formatAll : (turns : Nat) → (format : List Char) → (arguments : List (List Char)) → List Char
  | 0, _, _ => []
  | turns + 1, format, arguments =>
    let (text, left) := formatOnce (format.length + 1) format arguments
    if left.isEmpty || left.length == arguments.length then text
    else text ++ formatAll turns format left

/-- What is written for `printf`. -/
def printed : List (List Char) → List Char
  | [] => []
  | format :: arguments => formatAll (arguments.length + 1) format arguments

/-- The numbers from one to another, each on a line. -/
def numberLines (first last : Int) : List Char :=
  let count := (last - first + 1).toNat
  (List.range count).flatMap fun (index : Nat) => (toString (first + (index : Int))).toList ++ ['\n']

/-! ## Conditions -/

def comparison? (operator : List Char) : Option (Int → Int → Bool) :=
  match String.ofList operator with
  | "-eq" => some fun left right => left == right
  | "-ne" => some fun left right => left != right
  | "-lt" => some fun left right => decide (left < right)
  | "-le" => some fun left right => decide (left ≤ right)
  | "-gt" => some fun left right => decide (right < left)
  | "-ge" => some fun left right => decide (right ≤ left)
  | _ => none

def fileCondition? (tree : FileTree) (operator operand : List Char) : Option Bool :=
  let path : Path := ⟨Bytes.ofChars operand⟩
  let entry := (tree.locate path).toOption.map (·.2)
  match String.ofList operator with
  | "-n" => some (!operand.isEmpty)
  | "-z" => some operand.isEmpty
  | "-e" => some entry.isSome
  | "-r" => some (tree.isReadable path)
  | "-d" => some (entry == some .directory)
  | "-f" => some (entry.isSome && entry != some .directory)
  | "-s" => some (entry.any fun entry => match entry with
    | .file content _ => !content.isEmpty
    | .directory => true)
  | "-x" => some (entry.any fun entry => match entry with
    | .file _ executable => executable
    | .directory => true)
  | _ => none

/-- Whether the words of a test hold; undefined if they are none. -/
def holds? (tree : FileTree) : List (List Char) → Option Bool
  | [] => some false
  | ['!'] :: [] => some true
  | ['!'] :: rest => (holds? tree rest).map (!·)
  | [word] => some (!word.isEmpty)
  | [operator, operand] => fileCondition? tree operator operand
  | [left, operator, right] =>
    if operator = ['='] ∨ operator = ['=', '='] then some (left == right)
    else if operator = ['!', '='] then some (left != right)
    else
      match comparison? operator, integer? left, integer? right with
      | some compare, some left, some right => some (compare left right)
      | _, _, _ => none
  | _ => none

end Checkup.Shell
