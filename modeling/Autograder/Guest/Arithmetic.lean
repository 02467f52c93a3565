import Autograder.Guest.Value

/-!
# Arithmetic and comparison

What the operators and comparisons do to values.

Integers are computed exactly. A result that no 64-bit word holds is computed once more in floating
point, and division always is. Booleans count as 0 and 1. Text can be joined and repeated, and is
compared by code points.
-/

namespace Autograder.Guest

/-- The numeric view of a value. -/
inductive Number where
  | int (i : Int64)
  | float (x : Float)
deriving DecidableEq

/-- The word for an integer in its range. -/
def word? (n : Int) : Option Int64 :=
  if Int64.minValue.toInt ≤ n && n ≤ Int64.maxValue.toInt then some (Int64.ofInt n) else none

/-- A word as a float, rounded to the nearest, a tie going to even. -/
def wordFloat (i : Int64) : Float :=
  Float.ofInt i.toInt

/-- A number as a float. -/
def Number.toFloat : Number → Float
  | int i => wordFloat i
  | float x => x

/-- Booleans count as 0 and 1; text is no number. -/
def Value.number? : Value → Option Number
  | int i => some (.int i)
  | float x => some (.float x)
  | bool b => some (.int (if b then 1 else 0))
  | str _ => none

/-! ## Integers -/

/-- The power of a word when a word holds it. Exponents are limited to 32 bits; from 64 on, only
the bases 0, 1 and -1 have such powers. -/
def power? (base : Int64) (exponent : Nat) : Option Int64 :=
  if 4294967296 ≤ exponent then none
  else if exponent < 64 then word? (Int.pow base.toInt exponent)
  else if base = 0 then some 0
  else if base = 1 then some 1
  else if base = -1 then some (if exponent % 2 = 0 then 1 else -1)
  else none

/-- The exact result of an operator on two words, when words hold all of it. A remainder is exact
only together with its quotient, so the least word has no exact remainder by -1. Division is never
exact here: its result is a float. -/
def wordResult? (op : Operator) (x y : Int64) : Option Int64 :=
  match op with
  | .add => word? (x.toInt + y.toInt)
  | .sub => word? (x.toInt - y.toInt)
  | .mul => word? (x.toInt * y.toInt)
  | .floorDiv => word? (x.toInt.fdiv y.toInt)
  | .mod => (word? (x.toInt.fdiv y.toInt)).bind fun _ => word? (x.toInt.fmod y.toInt)
  | .pow => if 0 ≤ y.toInt then power? x y.toInt.toNat else none
  | .div => none

/-- An operator on two floats. -/
def floatBinary (op : Operator) (x y : Float) : Except Fault Value :=
  if op.divides && y == 0 then .error .zeroDivision
  else .ok <| .float <| match op with
    | .add => x + y
    | .sub => x - y
    | .mul => x * y
    | .div => x / y
    | .floorDiv => (x / y).floor
    | .mod => x - y * (x / y).floor
    | .pow => x.pow y

/-- An operator on two words. -/
def intBinary (op : Operator) (x y : Int64) : Except Fault Value :=
  if op.divides && y == 0 then .error .zeroDivision
  else match wordResult? op x y with
    | some z => .ok (.int z)
    | none => floatBinary op (wordFloat x) (wordFloat y)

/-! ## Text -/

/-- Refuses a string of more than `maxValueBytes` bytes. -/
def checkSize (bytes : Nat) : Except Fault Unit :=
  if bytes ≤ maxValueBytes then .ok () else .error .valueTooLong

/-- Two texts in a row. -/
def joinText (s t : String) : Except Fault Value := do
  checkSize (s.utf8ByteSize + t.utf8ByteSize)
  return .str (s ++ t)

/-- A text several times in a row; the empty text stays empty however often it is repeated. -/
def replicateText (s : String) (times : Nat) : String :=
  if s.isEmpty then "" else Nat.repeat (· ++ s) times ""

/-- A text as many times in a row as the word says, not at all if it is negative. -/
def repeatText (s : String) (n : Int64) : Except Fault Value := do
  checkSize (s.utf8ByteSize * n.toInt.toNat)
  return .str (replicateText s n.toInt.toNat)

/-! ## All values -/

/-- An operator on two values. -/
def Value.binary (op : Operator) (a b : Value) : Except Fault Value :=
  match op, a, b with
  | .add, .str s, .str t => joinText s t
  | .mul, .str s, .int n => repeatText s n
  | .mul, .int n, .str s => repeatText s n
  | _, _, _ =>
    match a.number?, b.number? with
    | some (.int x), some (.int y) => intBinary op x y
    | some x, some y => floatBinary op x.toFloat y.toFloat
    | _, _ => .error (.badOperands op a.kind b.kind)

/-- The negative of a number. -/
def Value.negate (a : Value) : Except Fault Value :=
  match a.number? with
  | some (.int i) =>
    .ok <| match word? (-i.toInt) with
      | some j => .int j
      | none => .float (-(wordFloat i))
  | some (.float x) => .ok (.float (-x))
  | none => .error (.badNegation a.kind)

/-! ## Comparison -/

/-- Equality of values: numbers by value whatever their kind, and no text equals a number. -/
def Value.equals (a b : Value) : Bool :=
  match a, b with
  | .str s, .str t => s == t
  | _, _ =>
    match a.number?, b.number? with
    | some (.int x), some (.int y) => x == y
    | some x, some y => x.toFloat == y.toFloat
    | _, _ => false

/-- The order of two floats, if they have one. -/
def floatOrder? (x y : Float) : Option Ordering :=
  match decide (x ≤ y), decide (y ≤ x) with
  | true, true => some .eq
  | true, false => some .lt
  | false, true => some .gt
  | false, false => none

/-- The order of two values, asked for by a comparison. -/
def Value.order (asked : Comparison) (a b : Value) : Except Fault Ordering :=
  match a, b with
  | .str s, .str t => .ok (compare s t)
  | _, _ =>
    match a.number?, b.number? with
    | some (.int x), some (.int y) => .ok (compare x.toInt y.toInt)
    | some x, some y =>
      match floatOrder? x.toFloat y.toFloat with
      | some order => .ok order
      | none => .error .unorderedFloats
    | _, _ => .error (.badComparison asked a.kind b.kind)

/-- Whether a comparison holds. -/
def Comparison.holds (op : Comparison) (a b : Value) : Except Fault Bool :=
  match op with
  | .eq => .ok (a.equals b)
  | .ne => .ok (!a.equals b)
  | .ge => (a.order op b).map (· != .lt)
  | .le => (a.order op b).map (· != .gt)
  | .gt => (a.order op b).map (· == .gt)
  | .lt => (a.order op b).map (· == .lt)

end Autograder.Guest
