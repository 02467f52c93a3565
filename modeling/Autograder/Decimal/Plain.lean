import Autograder.Decimal.Shortest

/-!
# Plain decimal text

Numbers as text, and text as numbers, in the plain positional form: no exponent, however long the
row of zeros, and no point in a number without a fraction.
-/

namespace Autograder.Decimal

/-- A row of digits with a point `places` digits from its right end. -/
def placePoint (digits : List Char) (places : Nat) : List Char :=
  let padded := List.replicate (places + 1 - digits.length) '0' ++ digits
  padded.take (padded.length - places) ++ '.' :: padded.drop (padded.length - places)

/-- Positional text of a decimal; zeros that end a fraction are not written. -/
def Digits.text (d : Digits) : List Char :=
  let digits := Nat.toDigits 10 d.digits
  if 0 ≤ d.exponent then digits ++ List.replicate d.exponent.toNat '0'
  else
    let zeros := min (digits.reverse.takeWhile (· == '0')).length (-d.exponent).toNat
    let kept := digits.take (digits.length - zeros)
    let places := (-d.exponent).toNat - zeros
    if places = 0 then kept else placePoint kept places

/-- The sign bit is set. -/
def isNegative (x : Float) : Bool :=
  x.toBits.toNat ≥ 9223372036854775808

/-- The fewest digits that read back, in positional form. Zero keeps its sign, and the values that
are no numbers have names. -/
def plain (x : Float) : String :=
  if x.isNaN then "NaN"
  else if x.isInf then (if isNegative x then "-inf" else "inf")
  else
    let m := Magnitude.ofBits x.toBits
    let digits := if m.significand = 0 then ['0'] else m.shortest.text
    String.ofList (if isNegative x then '-' :: digits else digits)

/-- An ASCII digit. -/
def isDigit (c : Char) : Bool :=
  '0' ≤ c && c ≤ '9'

/-- The number that a row of digits stands for. -/
def natOfDigits (digits : List Char) : Nat :=
  digits.foldl (fun n c => 10 * n + (c.toNat - '0'.toNat)) 0

/-- An optional sign, split off; `true` is minus. -/
def splitSign : List Char → Bool × List Char
  | '-' :: rest => (true, rest)
  | '+' :: rest => (false, rest)
  | text => (false, text)

/-- A row of one or more digits and nothing else. -/
def digits? (text : List Char) : Option Nat :=
  if !text.isEmpty && text.all isDigit then some (natOfDigits text) else none

/-- A whole number: an optional sign and at least one digit. -/
def integer? (text : List Char) : Option Int :=
  let (negative, rest) := splitSign text
  (digits? rest).map fun n => if negative then -(n : Int) else n

/-- A whole number that is not signed by minus. -/
def natural? (text : List Char) : Option Nat :=
  match text with
  | '+' :: rest => digits? rest
  | _ => digits? text

/-- The nearest floating-point number to `digits * 10 ^ exponent`, a tie going to even. -/
def nearest (digits : Nat) (exponent : Int) : Float :=
  if exponent < 0 then Float.ofScientific digits true (-exponent).toNat
  else Float.ofScientific digits false exponent.toNat

/-- The unsigned decimals with an optional point: at least one digit, before the point or after
it. -/
def decimal? (text : List Char) : Option Digits :=
  let whole := text.takeWhile (· != '.')
  let fraction := (text.dropWhile (· != '.')).drop 1
  (digits? (whole ++ fraction)).map fun n => ⟨n, -(fraction.length : Int)⟩

end Autograder.Decimal
