import Autograder.Guest.Expression

/-!
# Conditions

The guards of a program. Brackets around the whole of a condition are dropped; then the first
comparison that stands in code and outside brackets splits it in two expressions. Without one, the
condition is an expression that holds when its value is truthy.
-/

namespace Autograder.Guest

/-- The comparison that a text starts with, and what follows it. -/
def comparison? : List Char → Option (Comparison × List Char)
  | '=' :: '=' :: rest => some (.eq, rest)
  | '!' :: '=' :: rest => some (.ne, rest)
  | '>' :: '=' :: rest => some (.ge, rest)
  | '<' :: '=' :: rest => some (.le, rest)
  | '>' :: rest => some (.gt, rest)
  | '<' :: rest => some (.lt, rest)
  | _ => none

/-- How a bracket that can hold an operand changes the depth. Braces are no such brackets. -/
def operandBracketStep : Char → Int
  | '(' | '[' => 1
  | ')' | ']' => -1
  | _ => 0

/-- Splits a text at its first comparison from a given state on. `left` holds the characters
already read, latest first. -/
def splitComparisonFrom (scan : Scan) (depth : Int) (left : List Char) :
    List Char → Option (List Char × Comparison × List Char)
  | [] => none
  | c :: rest =>
    if scan.isCode c && operandBracketStep c == 0 && depth == 0 then
      match comparison? (c :: rest) with
      | some (op, right) => some (left.reverse, op, right)
      | none => splitComparisonFrom (scan.step c) depth (c :: left) rest
    else
      splitComparisonFrom (scan.step c)
        (if scan.isCode c then depth + operandBracketStep c else depth) (c :: left) rest

/-- Splits a text at the first comparison that stands in code and outside brackets. -/
def splitComparison (text : List Char) : Option (List Char × Comparison × List Char) :=
  splitComparisonFrom .code 0 [] text

/-- The text within all the brackets that enclose the whole of it, without blanks at its ends. -/
def dropEnclosing (text : List Char) : List Char :=
  match h : callArgument? [] (Text.trim text) with
  | some inner =>
    have : inner.length < text.length :=
      Nat.lt_of_lt_of_le (length_of_callArgument? h) (Text.length_trim_le text)
    dropEnclosing inner
  | none => Text.trim text
termination_by text.length

/-- Whether a condition holds. The left side of a comparison is evaluated first. -/
def evaluateCondition (vars : Bindings) (text : List Char) : Except Fault Bool :=
  let text := dropEnclosing text
  match splitComparison text with
  | some (left, op, right) =>
    (evaluate vars left).bind fun a => (evaluate vars right).bind fun b => op.holds a b
  | none => (evaluate vars text).map Value.isTruthy

end Autograder.Guest
