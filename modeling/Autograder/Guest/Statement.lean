import Autograder.Guest.Condition

/-!
# Statements

What a line that is no header may do: print values, read input, or assign to a name. A line that
fits none of these forms does nothing.

An assignment is recognised by its first equals sign in code. Blanks on its right side are ignored
where the side is compared with the forms that read input.
-/

namespace Autograder.Guest

/-- The kinds of number that a program can read. -/
inductive NumberKind where
  | int
  | float
deriving DecidableEq, Repr

namespace NumberKind

/-- The name of the function that reads the kind. -/
def name : NumberKind → List Char
  | int => ['i', 'n', 't']
  | float => ['f', 'l', 'o', 'a', 't']

/-- Reads a number of the kind from text. -/
def read : NumberKind → List Char → Except Fault Value
  | int => readInt
  | float => readFloat

end NumberKind

/-- A statement. Names and expressions are still text. -/
inductive Statement where
  /-- Prints the values of expressions that commas separate. -/
  | print (arguments : List Char)
  /-- Reads a line of numbers, one for each name. -/
  | readFields (names : List (List Char)) (kind : NumberKind)
  /-- Reads a line that is one number. -/
  | readNumber (name : List Char) (kind : NumberKind)
  /-- Reads a line, perhaps without the blanks at its ends. -/
  | readLine (name : List Char) (trimmed : Bool)
  /-- Gives a name the value of an expression, perhaps joined to the value it has. -/
  | assign (name : List Char) (op : Option Operator) (expression : List Char)
  /-- Does nothing. -/
  | ignored
deriving DecidableEq

/-! ## Reading forms -/

/-- A call as it is written without blanks. -/
def callText (name argument : List Char) : List Char :=
  name ++ '(' :: (argument ++ [')'])

/-- `input()` -/
def inputText : List Char :=
  callText ['i', 'n', 'p', 'u', 't'] []

/-- `input().strip()` -/
def strippedInputText : List Char :=
  inputText ++ '.' :: callText ['s', 't', 'r', 'i', 'p'] []

/-- `map(int,input().split())`, and the same for floats. -/
def fieldsText (kind : NumberKind) : List Char :=
  callText ['m', 'a', 'p']
    (kind.name ++ ',' :: (inputText ++ '.' :: callText ['s', 'p', 'l', 'i', 't'] []))

/-- The kind of number whose fields a right side reads, perhaps as a list. -/
def fieldsKind? (right : List Char) : Option NumberKind :=
  [NumberKind.int, .float].find? fun kind =>
    right == fieldsText kind || right == callText ['l', 'i', 's', 't'] (fieldsText kind)

/-- The kind of number that a right side reads from a whole line. -/
def numberKind? (right : List Char) : Option NumberKind :=
  [NumberKind.int, .float].find? fun kind =>
    right == callText kind.name inputText || right == callText kind.name strippedInputText

/-! ## Assignments -/

/-- A text split at an equals sign: left side, compound operator, right side. -/
structure Assignment where
  left : List Char
  op : Option Operator
  right : List Char
deriving DecidableEq

/-- The assignment at an equals sign, between the characters before it, latest first, and the text
behind it. An equals sign that belongs to a comparison is none. -/
def assignmentAt? (before after : List Char) : Option Assignment :=
  let compares := match before with
    | c :: _ => c == '=' || c == '!' || c == '<' || c == '>'
    | [] => false
  if compares || after.head? == some '=' then none
  else
    match before with
    | c :: rest =>
      match Operator.ofCompound? c with
      | some op => some ⟨Text.trim rest.reverse, some op, Text.trim after⟩
      | none => some ⟨Text.trim before.reverse, none, Text.trim after⟩
    | [] => some ⟨[], none, Text.trim after⟩

/-- Finds the first equals sign in code from a given state on. `before` holds the characters
already read, latest first. -/
def splitAssignmentFrom (scan : Scan) (before : List Char) : List Char → Option Assignment
  | [] => none
  | c :: rest =>
    if scan.isCode c && c == '=' then assignmentAt? before rest
    else splitAssignmentFrom (scan.step c) (c :: before) rest

/-- The assignment at the first equals sign of a text that stands in code. -/
def splitAssignment (text : List Char) : Option Assignment :=
  splitAssignmentFrom .code [] text

/-! ## Recognition -/

/-- The statement that an assignment makes. Several names can only be read into. -/
def Assignment.statement (a : Assignment) : Statement :=
  let compact := a.right.filter fun c => !Text.isBlank c
  if a.op.isNone && a.left.contains ',' then
    let names := (Text.segments (· == ',') a.left).map Text.trim
    match fieldsKind? compact with
    | some kind => if names.all isIdentifier then .readFields names kind else .ignored
    | none => .ignored
  else if !isIdentifier a.left then .ignored
  else if a.op.isSome then .assign a.left a.op a.right
  else
    match numberKind? compact with
    | some kind => .readNumber a.left kind
    | none =>
      if compact == inputText then .readLine a.left false
      else if compact == strippedInputText then .readLine a.left true
      else .assign a.left none a.right

/-- The statement on a line. -/
def Statement.ofText (text : List Char) : Statement :=
  match callArgument? ['p', 'r', 'i', 'n', 't'] text with
  | some arguments => .print arguments
  | none =>
    match splitAssignment text with
    | some a => a.statement
    | none => .ignored

end Autograder.Guest
