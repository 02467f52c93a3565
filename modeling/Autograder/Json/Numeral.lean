import Autograder.Json.Basic

/-!
# Numbers in documents

What a written number means: a natural number if it is written as one, and otherwise a float.

The float is not always the one nearest to the decimal. The digits are gathered in a 64-bit word;
the digits that do not fit count as powers of ten before the point and are ignored behind it. The
word is then scaled by powers of ten in floating point, each step rounding once more.
-/

namespace Autograder.Numeral

/-- The number is written as an integer without a minus. -/
def nat? (n : Numeral) : Option Nat :=
  if !n.negative && n.fraction.isEmpty && n.exponent.isNone then
    some (Decimal.natOfDigits n.whole)
  else none

/-- The digits that fit in a word, and the power of ten that they stand for. -/
structure Scaled where
  word : Nat
  exponent : Int

/-- Takes a digit into the word if it fits there. -/
def Scaled.push? (s : Scaled) (c : Char) : Option Nat :=
  let word := 10 * s.word + (c.toNat - '0'.toNat)
  if word < 18446744073709551616 then some word else none

/-- Takes the digits before the point. From the first that does not fit on, each counts as a power
of ten. -/
def Scaled.pushWhole (s : Scaled) (digits : List Char) : Scaled :=
  digits.foldl (fun s c =>
    match (if s.exponent = 0 then s.push? c else none) with
    | some word => ⟨word, 0⟩
    | none => ⟨s.word, s.exponent + 1⟩) s

/-- Takes the digits behind the point, up to the first that does not fit. -/
def Scaled.pushFraction (s : Scaled) : List Char → Scaled
  | [] => s
  | c :: digits =>
    match s.push? c with
    | some word => Scaled.pushFraction ⟨word, s.exponent - 1⟩ digits
    | none => s

/-- The float `x` times `10 ^ exponent` for a negative exponent, in steps of at most 308 places. -/
def shrink (x : Float) (places : Nat) : Float :=
  if places ≤ 308 then x / Float.ofScientific 1 false places
  else if x == 0 then x
  else shrink (x / 1e308) (places - 308)
termination_by places
decreasing_by omega

/-- The float that a word and a power of ten stand for, if it is finite. -/
def Scaled.toFloat? (s : Scaled) : Option Float :=
  let x := Float.ofNat s.word
  if s.exponent < 0 then some (shrink x (-s.exponent).toNat)
  else if s.exponent ≤ 308 then
    let y := x * Float.ofScientific 1 false s.exponent.toNat
    if y.isInf then none else some y
  else if x == 0 then some x
  else none

/-- The greatest exponent that is read digit by digit. -/
def maxExponent : Nat := 2147483647

/-- The float that a number stands for; none if it is too great for one. -/
def toFloat? (n : Numeral) : Option Float :=
  let s := ((⟨0, 0⟩ : Scaled).pushWhole n.whole).pushFraction n.fraction
  let magnitude :=
    match n.exponent with
    | none => s.toFloat?
    | some (negative, digits) =>
      let e := Decimal.natOfDigits digits
      if maxExponent < e then
        if s.word != 0 && !negative then none else some 0
      else if negative then Scaled.toFloat? ⟨s.word, s.exponent - e⟩
      else Scaled.toFloat? ⟨s.word, s.exponent + e⟩
  magnitude.map fun x => if n.negative then -x else x

end Autograder.Numeral
