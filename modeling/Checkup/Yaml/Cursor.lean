import Checkup.Text.Entity

/-!
# Places in a YAML text

A cursor is the rest of the text with its place. The characters of line breaks are the ones of
Unicode; a carriage return and a line feed are one break.
-/

namespace Checkup.Yaml

structure Cursor where
  rest : List Char
  index : Nat := 0
  line : Nat := 0
  column : Nat := 0

def isSpace (char : Char) : Bool := char == ' ' || char == '\t'

def isBreak (char : Char) : Bool :=
  char == '\r' || char == '\n' || char.toNat == 0x85 || char.toNat == 0x2028 ||
    char.toNat == 0x2029

/-- Letters, digits, hyphens and underscores. -/
def isNameChar (char : Char) : Bool := char.isAlphanum || char == '-' || char == '_'

/-- Control characters have no place in a text. -/
def isAllowed (char : Char) : Bool :=
  let code := char.toNat
  code == 0x09 || code == 0x0A || code == 0x0D || (0x20 ≤ code && code ≤ 0x7E) || code == 0x85 ||
    (0xA0 ≤ code && code ≤ 0xD7FF) || (0xE000 ≤ code && code ≤ 0xFFFD) || 0x10000 ≤ code

/-- A space, a break or the end of the text begins the list. -/
def endsWord : List Char → Bool
  | [] => true
  | char :: _ => isSpace char || isBreak char

def endsLine : List Char → Bool
  | [] => true
  | char :: _ => isBreak char

namespace Cursor

/-- Passes over characters that are no breaks. -/
def skip (cursor : Cursor) (count : Nat) : Cursor :=
  { cursor with
    rest := cursor.rest.drop count
    index := cursor.index + count
    column := cursor.column + count }

/-- Passes over a break and tells what it stands for. -/
def takeBreak (cursor : Cursor) : List Char × Cursor :=
  let after (count : Nat) : Cursor :=
    { rest := cursor.rest.drop count
      index := cursor.index + count
      line := cursor.line + 1
      column := 0 }
  match cursor.rest with
  | [] => ([], cursor)
  | '\r' :: '\n' :: _ => (['\n'], after 2)
  | char :: _ =>
    if char.toNat == 0x2028 || char.toNat == 0x2029 then ([char], after 1)
    else if isBreak char then (['\n'], after 1)
    else ([], cursor)

def skipWhile (cursor : Cursor) (keep : Char → Bool) : Cursor :=
  cursor.skip (cursor.rest.takeWhile keep).length

/-- Passes over a comment up to the end of its line. -/
def skipComment (cursor : Cursor) : Cursor :=
  match cursor.rest with
  | '#' :: _ => cursor.skipWhile (!isBreak ·)
  | _ => cursor

/-- A line begins with three of the same marks that end a word. -/
def atMark (cursor : Cursor) (mark : Char) : Bool :=
  cursor.column == 0 && cursor.rest.take 3 == [mark, mark, mark] &&
    endsWord (cursor.rest.drop 3)

def atDocumentMark (cursor : Cursor) : Bool := cursor.atMark '-' || cursor.atMark '.'

end Cursor

/-- What a run of blanks between two words holds. -/
structure Gap where
  spaces : List Char := []
  broken : Bool := false
  firstBreak : List Char := []
  moreBreaks : List Char := []

/-- A single line break between words is a space, and further ones stay. -/
def Gap.text (gap : Gap) : List Char :=
  if gap.broken then
    if gap.firstBreak.head? = some '\n' then
      if gap.moreBreaks.isEmpty then [' '] else gap.moreBreaks
    else gap.firstBreak ++ gap.moreBreaks
  else gap.spaces

/-- Reads blanks and breaks. Behind a break no tab may stand left of column `indent`. -/
def takeGap? (indent : Int) : (turns : Nat) → Gap → Cursor → Option (Gap × Cursor)
  | 0, gap, cursor => some (gap, cursor)
  | turns + 1, gap, cursor =>
    match cursor.rest with
    | [] => some (gap, cursor)
    | char :: _ =>
      if isSpace char then
        if gap.broken ∧ (cursor.column : Int) < indent ∧ char = '\t' then none
        else
          let gap := if gap.broken then gap else { gap with spaces := gap.spaces ++ [char] }
          takeGap? indent turns gap (cursor.skip 1)
      else if isBreak char then
        let (text, cursor) := cursor.takeBreak
        let gap :=
          if gap.broken then { gap with moreBreaks := gap.moreBreaks ++ text }
          else { gap with spaces := [], broken := true, firstBreak := text }
        takeGap? indent turns gap cursor
      else some (gap, cursor)

end Checkup.Yaml
