import Checkup.Encoding.Decode
import Checkup.Text.Entity

/-!
# Messages

A tool writes whatever bytes the checked file held. A message is UTF-8 if it can be, text in the
fallback encoding otherwise, and its character references are resolved last.
-/

namespace Checkup.Message

inductive DecodeError where
  | unknownEncoding (label : String)
  | malformed (encoding : Encoding)
  deriving DecidableEq, Repr

def DecodeError.message : DecodeError → String
  | .unknownEncoding label => "unknown fallback encoding label '" ++ label ++ "'"
  | .malformed encoding => "message is neither valid UTF-8 nor valid " ++ encoding.name

/-- The text of a message before its references are resolved. -/
def decodeText (raw : Bytes) (fallback : String) : Except DecodeError (List Char) :=
  match Text.Utf8.decode? raw with
  | some text => .ok text
  | none =>
    match Encoding.ofLabel? fallback with
    | none => .error (.unknownEncoding fallback)
    | some encoding =>
      match encoding.decode? raw with
      | some text => .ok text
      | none => .error (.malformed encoding)

def decode (raw : Bytes) (fallback : String) : Except DecodeError String :=
  (decodeText raw fallback).map fun text => String.ofList (Text.Entity.unescapeChars text)

end Checkup.Message
