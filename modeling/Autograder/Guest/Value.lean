import Autograder.Decimal.Plain

/-!
# Guest values

The four kinds of value that a guest program computes with, the faults that end a program, and the
text of both. Integers are 64-bit words, floats are binary64, text is measured in UTF-8 bytes.
-/

namespace Autograder.Guest

/-- The kinds of value. -/
inductive Kind where
  | int
  | float
  | str
  | bool
deriving DecidableEq, Repr

/-- The name of a kind in guest messages. -/
def Kind.name : Kind → String
  | .int => "int"
  | .float => "float"
  | .str => "str"
  | .bool => "bool"

/-- A value of a guest program. -/
inductive Value where
  | int (i : Int64)
  | float (x : Float)
  | str (s : String)
  | bool (b : Bool)
deriving DecidableEq, Inhabited

namespace Value

/-- The kind of a value. -/
def kind : Value → Kind
  | int _ => .int
  | float _ => .float
  | str _ => .str
  | bool _ => .bool

/-- A condition holds unless its value is zero, empty or false. A float that is not a number is
not zero. -/
def isTruthy : Value → Bool
  | int i => i != 0
  | float x => x != 0
  | str s => !s.isEmpty
  | bool b => b

end Value

/-- The text of a float: a number without a fraction is written with one zero after the point as
long as it is below `10 ^ 16`, every other number in plain form. -/
def floatText (x : Float) : String :=
  if x.isNaN then "nan"
  else if x.isFinite && x.floor == x && x.abs < 1e16 then Decimal.plain x ++ ".0"
  else Decimal.plain x

/-- The text that a program prints for a value. -/
def Value.text : Value → String
  | .int i => toString i.toInt
  | .float x => floatText x
  | .str s => s
  | .bool true => "True"
  | .bool false => "False"

/-- The operators on two values. -/
inductive Operator where
  | add
  | sub
  | mul
  | div
  | floorDiv
  | mod
  | pow
deriving DecidableEq, Repr

namespace Operator

/-- How an operator is written. -/
def symbol : Operator → String
  | add => "+"
  | sub => "-"
  | mul => "*"
  | div => "/"
  | floorDiv => "//"
  | mod => "%"
  | pow => "**"

/-- The operator of a compound assignment, from the character before its equals sign. -/
def ofCompound? : Char → Option Operator
  | '+' => some add
  | '-' => some sub
  | '*' => some mul
  | '/' => some div
  | '%' => some mod
  | _ => none

/-- The operators that have no value at a zero divisor. -/
def divides : Operator → Bool
  | div | floorDiv | mod => true
  | _ => false

end Operator

/-- The comparisons of a condition. -/
inductive Comparison where
  | eq
  | ne
  | ge
  | le
  | gt
  | lt
deriving DecidableEq, Repr

/-- How a comparison is written. -/
def Comparison.symbol : Comparison → String
  | eq => "=="
  | ne => "!="
  | ge => ">="
  | le => "<="
  | gt => ">"
  | lt => "<"

/-- The most bytes that a string value may hold. -/
def maxValueBytes : Nat := 1048576

/-- The most bytes that a program may print, a line feed counted with each line. -/
def maxOutputBytes : Nat := 8388608

/-- Why a guest program ended before its last line. -/
inductive Fault where
  /-- A read after the last line of input. -/
  | endOfInput
  /-- The text is no integer of 64 bits. -/
  | notInteger (text : String)
  /-- The text is no decimal number. -/
  | notDecimal (text : String)
  /-- An infinity, or no number at all, has no integer part. -/
  | noIntegerPart (x : Float)
  /-- An ordering in which a float that is not a number takes part. -/
  | unorderedFloats
  /-- A line of input with fewer fields than names. -/
  | tooFewFields (expected actual : Nat)
  /-- A line of input with more fields than names. -/
  | tooManyFields (expected : Nat)
  /-- A name without a value. -/
  | unbound (name : String)
  /-- An operator that is not defined on these kinds. -/
  | badOperands (op : Operator) (left right : Kind)
  /-- Text and number have no order between them. -/
  | badComparison (op : Comparison) (left right : Kind)
  /-- Only numbers have a negative. -/
  | badNegation (operand : Kind)
  /-- Only text can be reversed. -/
  | notReversible (operand : Kind)
  /-- Only text has case methods. -/
  | noMethod (receiver : Kind) (method : String)
  /-- Only text has a length. -/
  | noLength (operand : Kind)
  /-- A divisor is zero. -/
  | zeroDivision
  /-- A string value would exceed `maxValueBytes`. -/
  | valueTooLong
  /-- The output would exceed `maxOutputBytes`. -/
  | outputTooLong
  /-- The run was told to stop. -/
  | cancelled
deriving DecidableEq

/-- The classes of fault. -/
inductive FaultClass where
  | endOfInput
  | value
  | name
  | type
  | zeroDivision
  | memory
  | cancelled
deriving DecidableEq, Repr

namespace Fault

/-- The class that a fault belongs to. -/
def faultClass : Fault → FaultClass
  | endOfInput => .endOfInput
  | notInteger _ | notDecimal _ | noIntegerPart _ | unorderedFloats | tooFewFields _ _
  | tooManyFields _ => .value
  | unbound _ => .name
  | badOperands _ _ _ | badComparison _ _ _ | badNegation _ | notReversible _ | noMethod _ _
  | noLength _ => .type
  | zeroDivision => .zeroDivision
  | valueTooLong | outputTooLong => .memory
  | cancelled => .cancelled

/-- What a fault says about its cause. -/
def detail : Fault → String
  | endOfInput => "EOF when reading a line"
  | notInteger text => "invalid literal for int() with base 10: '" ++ text ++ "'"
  | notDecimal text => "could not convert string to float: '" ++ text ++ "'"
  | noIntegerPart x => "cannot convert float " ++ Decimal.plain x ++ " to integer"
  | unorderedFloats => "comparison with nan"
  | tooFewFields expected actual =>
    "not enough values to unpack (expected " ++ toString expected ++ ", got " ++ toString actual
      ++ ")"
  | tooManyFields expected => "too many values to unpack (expected " ++ toString expected ++ ")"
  | unbound name => "name '" ++ name ++ "' is not defined"
  | badOperands op left right =>
    "unsupported operand type(s) for " ++ op.symbol ++ ": '" ++ left.name ++ "' and '"
      ++ right.name ++ "'"
  | badComparison op left right =>
    "'" ++ op.symbol ++ "' not supported between instances of '" ++ left.name ++ "' and '"
      ++ right.name ++ "'"
  | badNegation operand => "bad operand type for unary -: '" ++ operand.name ++ "'"
  | notReversible operand => "'" ++ operand.name ++ "' object is not subscriptable"
  | noMethod receiver method =>
    "'" ++ receiver.name ++ "' object has no attribute '" ++ method ++ "'"
  | noLength operand => "object of type '" ++ operand.name ++ "' has no len()"
  | zeroDivision => "division by zero"
  | valueTooLong => "string result exceeds " ++ toString maxValueBytes ++ " bytes"
  | outputTooLong => "output exceeds " ++ toString maxOutputBytes ++ " bytes"
  | cancelled => "Execution cancelled"

/-- The message of a fault: its class by the name the guest language gives it, then its detail. A
cancelled run is no error of the program and has no such name. -/
def message (fault : Fault) : String :=
  match fault.faultClass with
  | .endOfInput => "EOFError: " ++ fault.detail
  | .value => "ValueError: " ++ fault.detail
  | .name => "NameError: " ++ fault.detail
  | .type => "TypeError: " ++ fault.detail
  | .zeroDivision => "ZeroDivisionError: " ++ fault.detail
  | .memory => "MemoryError: " ++ fault.detail
  | .cancelled => fault.detail

end Fault

end Autograder.Guest
