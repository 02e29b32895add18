import Checkup.Pattern.CharClass
import Checkup.Pattern.Node
import Checkup.Text.Utf8

/-!
# Assertions about places

Whether an assertion holds between two bytes of a text. A Unicode assertion that says that no
word character is near fails beside bytes that are no characters.
-/

namespace Checkup.Pattern

abbrev Subject := Array UInt8

namespace Subject

def charAt? (subject : Subject) (position : Nat) : Option (Char × Nat) :=
  let window := (subject.extract position (position + 4)).toList
  match Text.Utf8.head window with
  | .scalar char rest => some (char, window.length - rest.length)
  | _ => none

def isContinuation (byte : UInt8) : Bool := 0x80 ≤ byte && byte < 0xC0

/-- Goes back over at most `steps` continuation bytes. -/
def leadBefore (subject : Subject) : (steps position : Nat) → Nat
  | 0, position => position
  | steps + 1, position =>
    if (subject[position]?).any isContinuation ∧ 0 < position then
      leadBefore subject steps (position - 1)
    else position

def charBefore? (subject : Subject) (position : Nat) : Option Char :=
  if position = 0 then none
  else
    let start := subject.leadBefore 3 (position - 1)
    let window := (subject.extract start position).toList
    match Text.Utf8.head window with
    | .scalar char _ => some char
    | _ => none

def isWordByte (byte : UInt8) : Bool :=
  let code := byte.toNat
  (0x30 ≤ code && code ≤ 0x39) || (0x41 ≤ code && code ≤ 0x5A) || code == 0x5F ||
    (0x61 ≤ code && code ≤ 0x7A)

def isWordChar (char : Char) : Bool := CharClass.word.contains char.toNat

def wordBefore (subject : Subject) (unicode : Bool) (position : Nat) : Bool :=
  if unicode then (subject.charBefore? position).any isWordChar
  else 0 < position && (subject[position - 1]?).any isWordByte

def wordAfter (subject : Subject) (unicode : Bool) (position : Nat) : Bool :=
  if unicode then (subject.charAt? position).any (isWordChar ·.1)
  else (subject[position]?).any isWordByte

/-- The text before the place ends in a character, where that matters. -/
def soundBefore (subject : Subject) (unicode : Bool) (position : Nat) : Bool :=
  !unicode || position == 0 || (subject.charBefore? position).isSome

def soundAfter (subject : Subject) (unicode : Bool) (position : Nat) : Bool :=
  !unicode || subject.size ≤ position || (subject.charAt? position).isSome

end Subject

namespace Look

def holds (subject : Subject) (position : Nat) : Look → Bool
  | .textStart => position == 0
  | .textEnd => position == subject.size
  | .lineStart crlf =>
    position == 0 || subject[position - 1]? == some 10 ||
      (crlf && subject[position - 1]? == some 13 && subject[position]? != some 10)
  | .lineEnd crlf =>
    if crlf then
      position == subject.size || subject[position]? == some 13 ||
        (subject[position]? == some 10 && !(0 < position && subject[position - 1]? == some 13))
    else position == subject.size || subject[position]? == some 10
  | .wordBoundary unicode =>
    subject.wordBefore unicode position != subject.wordAfter unicode position
  | .notWordBoundary unicode =>
    subject.soundBefore unicode position && subject.soundAfter unicode position &&
      subject.wordBefore unicode position == subject.wordAfter unicode position
  | .wordStart unicode =>
    !subject.wordBefore unicode position && subject.wordAfter unicode position
  | .wordEnd unicode =>
    subject.wordBefore unicode position && !subject.wordAfter unicode position
  | .wordStartHalf unicode =>
    subject.soundBefore unicode position && !subject.wordBefore unicode position
  | .wordEndHalf unicode =>
    subject.soundAfter unicode position && !subject.wordAfter unicode position

end Look

end Checkup.Pattern
