import Checkup.Encoding.Label
import Checkup.Encoding.Chinese
import Checkup.Encoding.Japanese
import Checkup.Encoding.Korean
import Checkup.Encoding.Utf16
import Checkup.Text.Utf8

/-!
# Decoding

`decode?` reads a whole byte string in one encoding. Nothing is replaced: one malformed sequence
leaves no text at all, and a byte order mark is a character like any other.
-/

namespace Checkup.Encoding

/-- Bytes above ASCII go to a private block of their own. -/
def userDefinedChar (byte : UInt8) : Char :=
  if byte < 0x80 then Char.ofNat byte.toNat else Char.ofNat (0xF780 + (byte.toNat - 0x80))

def decode? (encoding : Encoding) (bytes : Bytes) : Option (List Char) :=
  match encoding with
  | .utf8 => Text.Utf8.decode? bytes
  | .singleByte table => table.decode? bytes
  | .logicalHebrew => SingleByte.iso8859x8.decode? bytes
  | .gbk => Gb18030.decode? bytes
  | .gb18030 => Gb18030.decode? bytes
  | .big5 => Big5.decode? bytes
  | .eucJp => EucJp.decode? bytes
  | .iso2022Jp => Iso2022Jp.decode? bytes
  | .shiftJis => ShiftJis.decode? bytes
  | .eucKr => EucKr.decode? bytes
  | .replacement => if bytes.isEmpty then some [] else none
  | .utf16be => Utf16.decode? .big bytes
  | .utf16le => Utf16.decode? .little bytes
  | .userDefined => some (bytes.map userDefinedChar)

end Checkup.Encoding
