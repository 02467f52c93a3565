import Autograder.Text.Hex

/-!
# Percent escapes

The escapes in a path. A percent sign with two hexadecimal digits behind it stands for a byte; any
other percent sign stands for itself, and so does everything else, a plus sign included. The bytes
together are read as UTF-8.
-/

namespace Autograder.Text

/-- The bytes that a text with escapes stands for. -/
def percentBytes : List Char → List UInt8
  | '%' :: a :: b :: text =>
    match hexValue? a, hexValue? b with
    | some high, some low => UInt8.ofNat (16 * high + low) :: percentBytes text
    | _, _ => String.utf8EncodeChar '%' ++ percentBytes (a :: b :: text)
  | c :: text => String.utf8EncodeChar c ++ percentBytes text
  | [] => []

/-- The text that a text with escapes stands for, if its bytes are one. -/
def percentDecode? (text : List Char) : Option String :=
  String.fromUTF8? (percentBytes text).toByteArray

end Autograder.Text
