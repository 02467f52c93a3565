import Autograder.Text.Hex

/-!
# Identifiers

The 128-bit identifiers of submissions and their text. One is written as 32 hexadecimal digits in
groups of 8, 4, 4, 4 and 12 with hyphens between them. Read are also the digits without hyphens, and
the written form in braces or behind `urn:uuid:`; capital digits are as good as small ones.
-/

namespace Autograder

/-- An identifier of 128 bits. -/
structure Uuid where
  bits : BitVec 128
deriving DecidableEq

namespace Uuid

/-- The identifier made from random bits. Six of the bits are fixed: they say that the others are
random. -/
def ofRandom (bits : BitVec 128) : Uuid :=
  let free := 0xffffffffffff0fff3fffffffffffffff#128
  ⟨(bits &&& free) ||| 0x00000000000040008000000000000000#128⟩

/-- All 32 digits, the most significant first. -/
def digits (id : Uuid) : List Char :=
  (List.range 32).map fun i => Text.hexDigit ((id.bits.toNat >>> (4 * (31 - i))) % 16)

/-- Puts hyphens between the groups of a row of digits. -/
def hyphenate (digits : List Char) : List Char :=
  digits.take 8 ++ '-' :: ((digits.drop 8).take 4 ++ '-' :: ((digits.drop 12).take 4 ++ '-' ::
    ((digits.drop 16).take 4 ++ '-' :: digits.drop 20)))

/-- The written form. -/
def text (id : Uuid) : List Char :=
  hyphenate id.digits

/-- The identifier with the given 32 digits. -/
def ofDigits? (digits : List Char) : Option Uuid :=
  if digits.length = 32 then
    (digits.foldlM (fun n c => (Text.hexValue? c).map (16 * n + ·)) 0).map fun n => ⟨BitVec.ofNat 128 n⟩
  else none

/-- The digits of a row with hyphens between its groups. -/
def unhyphenate? (text : List Char) : Option (List Char) :=
  let digits := text.take 8 ++ (text.drop 9).take 4 ++ (text.drop 14).take 4
    ++ (text.drop 19).take 4 ++ text.drop 24
  if text = hyphenate digits then some digits else none

/-- The identifier that a text spells. -/
def ofText? (text : List Char) : Option Uuid :=
  if text.length = 32 then ofDigits? text
  else
    let inner :=
      match text with
      | '{' :: rest => if rest.getLast? = some '}' then rest.dropLast else []
      | 'u' :: 'r' :: 'n' :: ':' :: 'u' :: 'u' :: 'i' :: 'd' :: ':' :: rest => rest
      | _ => text
    (unhyphenate? inner).bind ofDigits?

end Uuid

end Autograder
