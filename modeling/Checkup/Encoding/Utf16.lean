/-!
# UTF-16

Two bytes make a unit in either order; a lone surrogate or a lone byte leaves no text.
-/

namespace Checkup.Encoding.Utf16

inductive ByteOrder where
  | little
  | big

def unit (order : ByteOrder) (first second : UInt8) : Nat :=
  match order with
  | .little => second.toNat * 256 + first.toNat
  | .big => first.toNat * 256 + second.toNat

/-- The units of an even number of bytes. -/
def units? (order : ByteOrder) : List UInt8 → Option (List Nat)
  | [] => some []
  | first :: second :: rest => (units? order rest).map (unit order first second :: ·)
  | [_] => none

def isHigh (unit : Nat) : Bool := 0xD800 ≤ unit && unit < 0xDC00

def isLow (unit : Nat) : Bool := 0xDC00 ≤ unit && unit < 0xE000

def charsOfUnits? : List Nat → Option (List Char)
  | [] => some []
  | unit :: rest =>
    if isHigh unit then
      match rest with
      | low :: rest =>
        if isLow low then
          (charsOfUnits? rest).map
            (Char.ofNat (0x10000 + (unit - 0xD800) * 1024 + (low - 0xDC00)) :: ·)
        else none
      | [] => none
    else if isLow unit then none
    else (charsOfUnits? rest).map (Char.ofNat unit :: ·)

def decode? (order : ByteOrder) (bytes : List UInt8) : Option (List Char) :=
  (units? order bytes).bind charsOfUnits?

end Checkup.Encoding.Utf16
