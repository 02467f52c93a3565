/-!
# Scores

The score of a submission is its share of the points, rounded to two decimals with halves away from
zero, and full points only when every case is passed. Points are floating-point numbers when the
program runs. The rule is written once for any kind of number that has the operations it needs, so
that it can also be read over the rational numbers, where nothing is rounded but what the rule
says.
-/

namespace Autograder

/-- The operations that scoring needs. -/
class Points (α : Type) where
  ofNat : Nat → α
  mul : α → α → α
  div : α → α → α
  /-- To the nearest whole number, halves away from zero. -/
  round : α → α
  less : α → α → Bool

/-- To the nearest whole number, halves away from zero. From 2 ^ 52 on every number is whole. -/
def roundFloat (x : Float) : Float :=
  let size := x.abs
  if 0 < size ∧ size < 4503599627370496 then
    let whole := size.toUInt64
    let nearest := if size - whole.toFloat < 0.5 then whole.toFloat else (whole + 1).toFloat
    if x < 0 then -nearest else nearest
  else x

instance : Points Float where
  ofNat := Float.ofNat
  mul := (· * ·)
  div := (· / ·)
  round := roundFloat
  less x y := x < y

/-- To the nearest whole number, halves away from zero. -/
def roundRat (x : Rat) : Rat :=
  if 0 ≤ x then ((x + 1 / 2).floor : Int) else (-(-x + 1 / 2).floor : Int)

instance : Points Rat where
  ofNat n := (n : Int)
  mul := (· * ·)
  div := (· / ·)
  round := roundRat
  less x y := x < y

namespace Points

variable {α : Type} [Points α]

/-- Held between two bounds. -/
def clamp (x low high : α) : α :=
  if less x low then low else if less high x then high else x

/-- To two decimals. -/
def toCents (x : α) : α :=
  div (round (mul x (ofNat 100))) (ofNat 100)

/-- The score for `passed` of `total` cases. A question without cases has no points to give. -/
def score (passed total : Nat) (maximum : α) : α :=
  if total = 0 then ofNat 0
  else if total ≤ passed then maximum
  else clamp (toCents (mul (ofNat passed) (div maximum (ofNat total)))) (ofNat 0) maximum

end Points

/-- The points that a question can give: what was asked for, or none if that is no positive finite
number. -/
def usablePoints (maximum : Float) : Float :=
  if maximum.isFinite && 0 < maximum then maximum else 0

end Autograder
