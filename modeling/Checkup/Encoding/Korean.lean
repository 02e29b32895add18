import Checkup.Encoding.Grid
import Checkup.Encoding.Index.EucKr

/-!
# Korean

EUC-KR with the unified Hangul extension. A byte string with any malformed sequence has no text.
-/

namespace Checkup.Encoding

def eucKrGrid : Grid := .ofRows 190 0 Index.eucKr

namespace EucKr

def twoByte? (lead trail : UInt8) : Option Char :=
  let byte := trail.toNat
  if 0x41 ≤ byte ∧ byte ≤ 0xFE then
    eucKrGrid.cell? ((lead.toNat - 0x81) * 190 + (byte - 0x41))
  else none

def decode? : List UInt8 → Option (List Char)
  | [] => some []
  | lead :: rest =>
    if lead < 0x80 then (decode? rest).map (Char.ofNat lead.toNat :: ·)
    else if lead = 0x80 ∨ lead = 0xFF then none
    else
      match rest with
      | [] => none
      | trail :: rest =>
        match twoByte? lead trail with
        | some char => (decode? rest).map (char :: ·)
        | none => none

end EucKr

end Checkup.Encoding
