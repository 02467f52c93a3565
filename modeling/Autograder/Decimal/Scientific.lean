import Autograder.Decimal.Plain

/-!
# Numbers in scientific notation

The text of a floating-point number as it is given on a command line: an optional sign, then the
name of a value that is no finite number, or a decimal with an optional point and an optional power
of ten. Nothing else may stand in the text, not even a blank.
-/

namespace Autograder.Decimal

/-- The power of ten behind a decimal: none at all, or the letter and a whole number. -/
def powerOfTen? : List Char → Option Int
  | [] => some 0
  | _ :: text => integer? text

/-- An unsigned decimal, perhaps with a power of ten. -/
def scientific? (text : List Char) : Option Digits := do
  let isMark := fun c => c == 'e' || c == 'E'
  let d ← decimal? (text.takeWhile fun c => !isMark c)
  let power ← powerOfTen? (text.dropWhile fun c => !isMark c)
  return ⟨d.digits, d.exponent + power⟩

/-- The nearest floating-point number. A decimal with its first digit above the 400th place is
infinite and one with its first digit below the 400th place behind the point is zero, however
great the power. -/
def Digits.toFloat (d : Digits) : Float :=
  let places : Int := (Nat.toDigits 10 d.digits).length + d.exponent
  if d.digits = 0 || places < -400 then 0
  else if 400 < places then 1.0 / 0.0
  else nearest d.digits d.exponent

/-- The floating-point number that a text spells, case of letters aside. -/
def float? (text : List Char) : Option Float :=
  let (negative, rest) := splitSign text
  let name := String.ofList (rest.map Char.toLower)
  let magnitude :=
    if name = "inf" || name = "infinity" then some (1.0 / 0.0)
    else if name = "nan" then some (0.0 / 0.0)
    else (scientific? rest).map Digits.toFloat
  magnitude.map fun x => if negative then -x else x

end Autograder.Decimal
