import Checkup.Encoding.Grid
import Checkup.Encoding.Index.Jis0208
import Checkup.Encoding.Index.Jis0212

/-!
# Japanese encodings

Shift_JIS, EUC-JP and the stateful ISO-2022-JP. A byte string with any malformed sequence has no
text.
-/

namespace Checkup.Encoding

def jis0208Grid : Grid := .ofRows 94 0 Index.jis0208

def jis0212Grid : Grid := .ofRows 94 0 Index.jis0212

/-- The half-width katakana that a byte from 0xA1 to 0xDF stands for. -/
def halfWidthKatakana (byte : UInt8) : Char :=
  Char.ofNat (0xFF61 + (byte.toNat - 0xA1))

namespace ShiftJis

/-- Pointers 8836 to 10715 are left to the user and map to the private use area. -/
def cell? (pointer : Nat) : Option Char :=
  if 8836 ≤ pointer ∧ pointer ≤ 10715 then some (Char.ofNat (0xE000 + (pointer - 8836)))
  else jis0208Grid.cell? pointer

def twoByte? (lead trail : UInt8) : Option Char :=
  let byte := trail.toNat
  if (0x40 ≤ byte ∧ byte ≤ 0x7E) ∨ (0x80 ≤ byte ∧ byte ≤ 0xFC) then
    let offset := if byte < 0x7F then 0x40 else 0x41
    let first := if lead < 0xA0 then 0x81 else 0xC1
    cell? ((lead.toNat - first) * 188 + (byte - offset))
  else none

def decode? : List UInt8 → Option (List Char)
  | [] => some []
  | lead :: rest =>
    if lead ≤ 0x80 then (decode? rest).map (Char.ofNat lead.toNat :: ·)
    else if 0xA1 ≤ lead ∧ lead ≤ 0xDF then (decode? rest).map (halfWidthKatakana lead :: ·)
    else if lead = 0xA0 ∨ 0xFC < lead then none
    else
      match rest with
      | [] => none
      | trail :: rest =>
        match twoByte? lead trail with
        | some char => (decode? rest).map (char :: ·)
        | none => none

end ShiftJis

def isKanjiByte (byte : UInt8) : Bool := 0xA1 ≤ byte && byte ≤ 0xFE

namespace EucJp

def pointer (lead trail : UInt8) : Nat :=
  (lead.toNat - 0xA1) * 94 + (trail.toNat - 0xA1)

def decode? : List UInt8 → Option (List Char)
  | [] => some []
  | lead :: rest =>
    if lead < 0x80 then (decode? rest).map (Char.ofNat lead.toNat :: ·)
    else if lead = 0x8E then
      match rest with
      | trail :: rest =>
        if 0xA1 ≤ trail ∧ trail ≤ 0xDF then
          (decode? rest).map (halfWidthKatakana trail :: ·)
        else none
      | [] => none
    else if lead = 0x8F then
      match rest with
      | second :: third :: rest =>
        if isKanjiByte second && isKanjiByte third then
          match jis0212Grid.cell? (pointer second third) with
          | some char => (decode? rest).map (char :: ·)
          | none => none
        else none
      | _ => none
    else
      match rest with
      | trail :: rest =>
        if isKanjiByte lead && isKanjiByte trail then
          match jis0208Grid.cell? (pointer lead trail) with
          | some char => (decode? rest).map (char :: ·)
          | none => none
        else none
      | [] => none

end EucJp

namespace Iso2022Jp

/-- The character set that the last escape sequence chose. -/
inductive Charset where
  | ascii
  | roman
  | katakana
  | kanji

/-- The set that the two bytes after an escape byte choose. -/
def charset? (first second : UInt8) : Option Charset :=
  if first = 0x28 then
    if second = 0x42 then some .ascii
    else if second = 0x4A then some .roman
    else if second = 0x49 then some .katakana
    else none
  else if first = 0x24 then
    if second = 0x40 ∨ second = 0x42 then some .kanji else none
  else none

def romanChar (byte : UInt8) : Char :=
  if byte = 0x5C then '¥' else if byte = 0x7E then '‾' else Char.ofNat byte.toNat

/-- A seven-bit byte that neither escapes nor shifts. -/
def isPlain (byte : UInt8) : Bool :=
  byte < 0x80 && byte != 0x0E && byte != 0x0F && byte != 0x1B

/-- `escaped` holds from an escape sequence to the next character: a second escape sequence in
that place is malformed. -/
def decodeFrom? (charset : Charset) (escaped : Bool) : List UInt8 → Option (List Char)
  | [] => some []
  | byte :: rest =>
    if byte = 0x1B then
      match rest with
      | first :: second :: rest =>
        match charset? first second with
        | some next => if escaped then none else decodeFrom? next true rest
        | none => none
      | _ => none
    else
      match charset with
      | .ascii =>
        if isPlain byte then
          (decodeFrom? .ascii false rest).map (Char.ofNat byte.toNat :: ·)
        else none
      | .roman =>
        if isPlain byte then (decodeFrom? .roman false rest).map (romanChar byte :: ·)
        else none
      | .katakana =>
        if 0x21 ≤ byte ∧ byte ≤ 0x5F then
          (decodeFrom? .katakana false rest).map (halfWidthKatakana (byte + 0x80) :: ·)
        else none
      | .kanji =>
        match rest with
        | trail :: rest =>
          if 0x21 ≤ byte ∧ byte ≤ 0x7E ∧ 0x21 ≤ trail ∧ trail ≤ 0x7E then
            match jis0208Grid.cell? (EucJp.pointer (byte + 0x80) (trail + 0x80)) with
            | some char => (decodeFrom? .kanji false rest).map (char :: ·)
            | none => none
          else none
        | [] => none

def decode? (bytes : List UInt8) : Option (List Char) :=
  decodeFrom? .ascii false bytes

end Iso2022Jp

end Checkup.Encoding
