/-!
# The fewest digits that read back

The decimal digits of a floating-point number, chosen by exact integer arithmetic on its bits: of
all decimals that round to the number, one with the fewest digits, and of those the nearest. Of two
that are equally near the greater is taken.

A finite number is decoded to `significand * 2 ^ exponent`. The reals that round to it form an
interval whose ends belong to it exactly when the significand is even. On the grid of multiples of
a power of ten only the two neighbours of the number can be the nearest grid point, so they are the
only candidates; the grid is refined digit by digit until one of them lies in the interval.
Seventeen digits always suffice.
-/

namespace Autograder.Decimal

/-- The magnitude of a finite binary64 number: `significand * 2 ^ exponent`. -/
structure Magnitude where
  significand : Nat
  exponent : Int
  /-- The number is the least of its binade, so the gap below it is half the gap above it. -/
  narrowBelow : Bool

/-- The magnitude that the bits of a finite number stand for; the sign bit is not looked at. -/
def Magnitude.ofBits (bits : UInt64) : Magnitude :=
  let biased := (bits >>> 52).toNat % 2048
  let fraction := bits.toNat % 4503599627370496
  if biased = 0 then ⟨fraction, -1074, false⟩
  else ⟨4503599627370496 + fraction, (biased : Int) - 1075, fraction = 0 && 1 < biased⟩

/-- A decimal: `digits * 10 ^ exponent`. -/
structure Digits where
  digits : Nat
  exponent : Int
deriving DecidableEq

/-- Compares `a * 10 ^ i` with `n * 2 ^ j`. -/
def compareScaled (a : Nat) (i : Int) (n : Nat) (j : Int) : Ordering :=
  compare (a * Nat.pow 10 i.toNat * Nat.pow 2 (-j).toNat)
    (n * Nat.pow 2 j.toNat * Nat.pow 10 (-i).toNat)

/-- The decimal lies in the interval of reals that round to the number. -/
def Magnitude.readsBack (x : Magnitude) (d : Digits) : Bool :=
  let low := 4 * x.significand - if x.narrowBelow then 1 else 2
  let high := 4 * x.significand + 2
  let closed := x.significand % 2 = 0
  let below := compareScaled d.digits d.exponent low (x.exponent - 2)
  let above := compareScaled d.digits d.exponent high (x.exponent - 2)
  (below = .gt || (closed && below = .eq)) && (above = .lt || (closed && above = .eq))

/-- The number divided by `10 ^ exponent`, as a numerator and a denominator. -/
def Magnitude.over (x : Magnitude) (exponent : Int) : Nat × Nat :=
  (x.significand * Nat.pow 2 x.exponent.toNat * Nat.pow 10 (-exponent).toNat,
    Nat.pow 2 (-x.exponent).toNat * Nat.pow 10 exponent.toNat)

/-- The exponent of the leading decimal digit. -/
def Magnitude.leading (x : Magnitude) : Int :=
  let (num, den) := x.over 0
  if den ≤ num then ((Nat.toDigits 10 (num / den)).length : Int) - 1
  else -((Nat.toDigits 10 (den / num)).length : Int)

/-- The better of the two neighbours of the number on the grid of multiples of `10 ^ exponent`, if
one of them reads back. -/
def Magnitude.onGrid? (x : Magnitude) (exponent : Int) : Option Digits :=
  let (num, den) := x.over exponent
  let lower : Digits := ⟨num / den, exponent⟩
  let upper : Digits := ⟨num / den + 1, exponent⟩
  match x.readsBack lower, x.readsBack upper with
  | true, true => some (if 2 * (num % den) < den then lower else upper)
  | true, false => some lower
  | false, true => some upper
  | false, false => none

/-- The digits of a finite number other than zero. -/
def Magnitude.shortest (x : Magnitude) : Digits :=
  let grids := (List.range 17).map fun (n : Nat) => x.leading - n
  (grids.findSome? x.onGrid?).getD ⟨x.significand, x.exponent⟩

end Autograder.Decimal
