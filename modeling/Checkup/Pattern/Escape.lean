import Checkup.Pattern.CharClass
import Checkup.Pattern.Node
import Checkup.Text.Blank
import Checkup.Text.Entity

/-!
# Escapes of pattern text

Reads what follows a backslash. In extended mode blanks and comments may stand between the parts
of an escape.
-/

namespace Checkup.Pattern

structure Flags where
  ignoreCase : Bool := false
  multiLine : Bool := false
  dotAll : Bool := false
  swapGreed : Bool := false
  unicode : Bool := false
  crlf : Bool := false
  extended : Bool := false
  deriving DecidableEq, Repr

namespace Flags

/-- The largest value that a single unit of the text can have. -/
def top (flags : Flags) : Nat := if flags.unicode then CharClass.topCode else 0xFF

def foldSet (flags : Flags) (set : Ranges) : Ranges :=
  if !flags.ignoreCase then set
  else if flags.unicode then CharClass.foldCase set
  else set.foldAscii

/-- All cases of the letters come in before the set is turned around. -/
def closeSet (flags : Flags) (negated : Bool) (set : Ranges) : Ranges :=
  let folded := flags.foldSet set
  if negated then folded.complement flags.top else folded

def nodeOfSet (flags : Flags) (set : Ranges) : Node :=
  if flags.unicode then .scalar set else .byte set

end Flags

/-! ## Blanks and comments -/

def dropBlank : (inComment : Bool) → List Char → List Char
  | _, [] => []
  | true, char :: rest => if char == '\n' then dropBlank false rest else dropBlank true rest
  | false, char :: rest =>
    if Text.isBlank char then dropBlank false rest
    else if char == '#' then dropBlank true rest
    else char :: rest

theorem dropBlank_length (inComment : Bool) (chars : List Char) :
    (dropBlank inComment chars).length ≤ chars.length := by
  fun_induction dropBlank inComment chars <;> simp_all <;> omega

/-- Blanks and comments count for nothing in extended mode. -/
def Flags.skip (flags : Flags) (chars : List Char) : List Char :=
  if flags.extended then dropBlank false chars else chars

theorem Flags.skip_length (flags : Flags) (chars : List Char) :
    (flags.skip chars).length ≤ chars.length := by
  unfold skip
  split
  · exact dropBlank_length false chars
  · exact Nat.le_refl _

/-- The characters that are kept up to the first that is not, and what remains. -/
def Flags.takeSpaced (flags : Flags) (keep : Char → Bool) (chars : List Char) :
    List Char × List Char :=
  match chars with
  | [] => ([], [])
  | char :: rest =>
    if keep char then
      have := flags.skip_length rest
      let (taken, remaining) := flags.takeSpaced keep (flags.skip rest)
      (char :: taken, remaining)
    else ([], char :: rest)
termination_by chars.length
decreasing_by simp; omega

/-! ## Atoms -/

/-- One atom of a pattern outside of its operators. -/
inductive Atom where
  | literal (char : Char) (asByte : Bool)
  | set (ranges : Ranges)
  | look (assertion : Look)

def isMeta (char : Char) : Bool :=
  "\\.+*?()|[]\x7b\x7d^$#&-~".toList.contains char

/-- Any other ASCII character that is no letter, digit or angle bracket may be escaped too. -/
def isEscapable (char : Char) : Bool :=
  isMeta char || (char.toNat < 0x80 && !char.isAlphanum && char != '<' && char != '>')

def isHexDigit (char : Char) : Bool := (Text.Entity.digitValue? char).isSome

def charOfDigits? (digits : List Char) : Option Char :=
  (Text.Entity.number? 16 digits).bind fun code =>
    if valid : code.isValidChar then some (Char.ofNatAux code valid) else none

def hexDigits? (flags : Flags) : (count : Nat) → List Char → Option (List Char × List Char)
  | 0, chars => some ([], chars)
  | _ + 1, [] => none
  | count + 1, char :: rest =>
    if isHexDigit char then
      (hexDigits? flags count (flags.skip rest)).map fun (digits, rest) => (char :: digits, rest)
    else none

/-- Only two plain digits after `\x` may name a byte. -/
def hexEscape? (flags : Flags) (count : Nat) (chars : List Char) : Option (Atom × List Char) :=
  match flags.skip chars with
  | [] => none
  | '\x7b' :: rest =>
    match flags.takeSpaced isHexDigit (flags.skip rest) with
    | (digits, '\x7d' :: rest) =>
      (charOfDigits? digits).map fun char => (.literal char false, flags.skip rest)
    | _ => none
  | chars =>
    (hexDigits? flags count chars).bind fun (digits, rest) =>
      (charOfDigits? digits).map fun char => (.literal char (count == 2), rest)

/-- Splits at the first place where `mark` stands. -/
def splitAtMark? (mark : List Char) : List Char → Option (List Char × List Char)
  | [] => none
  | char :: rest =>
    if mark.isPrefixOf (char :: rest) then some ([], (char :: rest).drop mark.length)
    else (splitAtMark? mark rest).map fun (before, after) => (char :: before, after)

def property? (name : List Char) : Option Ranges :=
  match splitAtMark? ['!', '='] name <|> splitAtMark? [':'] name <|> splitAtMark? ['='] name with
  | some (property, value) => CharClass.valued? property value
  | none => CharClass.named? name

/-- A property of characters needs Unicode mode. -/
def propertyEscape? (flags : Flags) (negated : Bool) (chars : List Char) :
    Option (Atom × List Char) :=
  let named? (name rest : List Char) : Option (Atom × List Char) :=
    if flags.unicode then
      (property? name).map fun set => (.set (flags.closeSet negated set), rest)
    else none
  match flags.skip chars with
  | [] => none
  | '\x7b' :: rest =>
    match flags.takeSpaced (· != '\x7d') (flags.skip rest) with
    | (name, _ :: rest) => named? name rest
    | _ => none
  | '\\' :: _ => none
  | char :: rest => named? [char] (flags.skip rest)

def shorthand (flags : Flags) (letter : Char) : Ranges :=
  let set :=
    if flags.unicode then
      match letter.toLower with
      | 'd' => CharClass.digit
      | 's' => CharClass.space
      | _ => CharClass.word
    else
      match letter.toLower with
      | 'd' => [(0x30, 0x39)]
      | 's' => [(0x09, 0x0D), (0x20, 0x20)]
      | _ => [(0x30, 0x39), (0x41, 0x5A), (0x5F, 0x5F), (0x61, 0x7A)]
  if letter.isUpper then set.complement flags.top else set

def isBoundaryChar (char : Char) : Bool := char.isAlpha || char == '-'

/-- A brace after `\b` names a kind of boundary if a letter or hyphen follows, and otherwise
begins a repetition. -/
def boundary? (flags : Flags) (chars : List Char) : Option (Atom × List Char) :=
  let plain := (Atom.look (.wordBoundary flags.unicode), chars)
  match chars with
  | '\x7b' :: rest =>
    match flags.skip rest with
    | [] => none
    | char :: more =>
      if isBoundaryChar char then
        match flags.takeSpaced isBoundaryChar (char :: more) with
        | (name, '\x7d' :: rest) =>
          match String.ofList name with
          | "start" => some (.look (.wordStart flags.unicode), rest)
          | "end" => some (.look (.wordEnd flags.unicode), rest)
          | "start-half" => some (.look (.wordStartHalf flags.unicode), rest)
          | "end-half" => some (.look (.wordEndHalf flags.unicode), rest)
          | _ => none
        | _ => none
      else some plain
  | _ => some plain

/-- Reads an escape behind its backslash. -/
def escape? (flags : Flags) : List Char → Option (Atom × List Char)
  | [] => none
  | char :: rest =>
    if char.isDigit then none
    else if isEscapable char then some (.literal char false, rest)
    else
      match char with
      | 'x' => hexEscape? flags 2 rest
      | 'u' => hexEscape? flags 4 rest
      | 'U' => hexEscape? flags 8 rest
      | 'p' => propertyEscape? flags false rest
      | 'P' => propertyEscape? flags true rest
      | 'd' | 's' | 'w' | 'D' | 'S' | 'W' => some (.set (shorthand flags char), rest)
      | 'a' => some (.literal '\x07' false, rest)
      | 'f' => some (.literal '\x0c' false, rest)
      | 't' => some (.literal '\t' false, rest)
      | 'n' => some (.literal '\n' false, rest)
      | 'r' => some (.literal '\r' false, rest)
      | 'v' => some (.literal '\x0b' false, rest)
      | 'A' => some (.look .textStart, rest)
      | 'z' => some (.look .textEnd, rest)
      | 'b' => boundary? flags rest
      | 'B' => some (.look (.notWordBoundary flags.unicode), rest)
      | '<' => some (.look (.wordStart flags.unicode), rest)
      | '>' => some (.look (.wordEnd flags.unicode), rest)
      | _ => none

end Checkup.Pattern
