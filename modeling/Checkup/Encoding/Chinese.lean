import Checkup.Encoding.Grid
import Checkup.Encoding.Index.Gb18030
import Checkup.Encoding.Index.Gb18030Runs
import Checkup.Encoding.Index.Big5

/-!
# Chinese encodings

GB 18030, which GBK shares, and Big5 with the Hong Kong supplement. A byte string with any
malformed sequence has no text.
-/

namespace Checkup.Encoding

def gb18030Grid : Grid := .ofRows 190 0 Index.gb18030

def big5Grid : Grid := .ofRows 157 6 Index.big5

namespace Gb18030

def twoByte? (lead trail : UInt8) : Option Char :=
  let byte := trail.toNat
  if (0x40 ≤ byte ∧ byte ≤ 0x7E) ∨ (0x80 ≤ byte ∧ byte ≤ 0xFE) then
    let offset := if byte < 0x7F then 0x40 else 0x41
    gb18030Grid.cell? ((lead.toNat - 0x81) * 190 + (byte - offset))
  else none

/-- The run that a number falls into, among runs in ascending order. -/
def runOf (number : Nat) (runs : List (Nat × Nat)) : Option (Nat × Nat) :=
  (runs.takeWhile fun run => run.1 ≤ number).getLast?

def fourByteCode? (number : Nat) : Option Nat :=
  if (39419 < number ∧ number < 189000) ∨ 1237575 < number then none
  else if number = 7457 then some 0xE7C7
  else (runOf number Index.gb18030Runs).map fun run => run.2 + (number - run.1)

def fourByte? (first second third fourth : UInt8) : Option Char :=
  if 0x81 ≤ third ∧ third ≤ 0xFE ∧ 0x30 ≤ fourth ∧ fourth ≤ 0x39 then
    let number := (((first.toNat - 0x81) * 10 + (second.toNat - 0x30)) * 126 +
      (third.toNat - 0x81)) * 10 + (fourth.toNat - 0x30)
    (fourByteCode? number).map Char.ofNat
  else none

def decode? : List UInt8 → Option (List Char)
  | [] => some []
  | first :: rest =>
    if first < 0x80 then (decode? rest).map (Char.ofNat first.toNat :: ·)
    else if first = 0x80 then (decode? rest).map ('€' :: ·)
    else if first = 0xFF then none
    else
      match rest with
      | [] => none
      | second :: rest =>
        if 0x30 ≤ second ∧ second ≤ 0x39 then
          match rest with
          | third :: fourth :: rest =>
            match fourByte? first second third fourth with
            | some char => (decode? rest).map (char :: ·)
            | none => none
          | _ => none
        else
          match twoByte? first second with
          | some char => (decode? rest).map (char :: ·)
          | none => none

end Gb18030

namespace Big5

/-- Four cells hold a letter with a combining mark. -/
def pair? (pointer : Nat) : Option (List Char) :=
  if pointer = 1133 then some ['Ê', '\u0304']
  else if pointer = 1135 then some ['Ê', '\u030c']
  else if pointer = 1164 then some ['ê', '\u0304']
  else if pointer = 1166 then some ['ê', '\u030c']
  else none

def twoByte? (lead trail : UInt8) : Option (List Char) :=
  let byte := trail.toNat
  if (0x40 ≤ byte ∧ byte ≤ 0x7E) ∨ (0xA1 ≤ byte ∧ byte ≤ 0xFE) then
    let offset := if byte < 0x7F then 0x40 else 0x62
    let pointer := (lead.toNat - 0x81) * 157 + (byte - offset)
    match pair? pointer with
    | some chars => some chars
    | none => (big5Grid.cell? pointer).map ([·])
  else none

def decode? : List UInt8 → Option (List Char)
  | [] => some []
  | lead :: rest =>
    if lead < 0x80 then (decode? rest).map (Char.ofNat lead.toNat :: ·)
    else if lead = 0x80 ∨ lead = 0xFF then none
    else
      match rest with
      | [] => none
      | trail :: rest =>
        match twoByte? lead trail with
        | some chars => (decode? rest).map (chars ++ ·)
        | none => none

end Big5

end Checkup.Encoding
