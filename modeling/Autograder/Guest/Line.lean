import Autograder.Text.Cut

/-!
# Lines and headers

The lines of a program, each with its place and its indentation, and the headers of conditional
blocks. Blank lines and comments are lines of a program as well, but nothing is done with them.
-/

namespace Autograder.Guest

/-- A line of a program. -/
structure Line where
  /-- Its place among all lines of the program, counted from zero. -/
  number : Nat
  /-- The number of blanks before its text. -/
  indent : Nat
  /-- What is written on it, without blanks at the ends. -/
  text : List Char
deriving DecidableEq

namespace Line

/-- A line as it is written. -/
def ofText (number : Nat) (written : List Char) : Line :=
  ⟨number, (written.takeWhile Text.isBlank).length, Text.trim written⟩

/-- Neither blank nor a comment. -/
def isSignificant (line : Line) : Bool :=
  !line.text.isEmpty && line.text.head? != some '#'

/-- Lines as they are written, numbered from `number` on. -/
def numberFrom (number : Nat) : List (List Char) → List Line
  | [] => []
  | written :: rest => ofText number written :: numberFrom (number + 1) rest

/-- The significant lines among lines as they are written. -/
def significant (written : List (List Char)) : List Line :=
  (numberFrom 0 written).filter isSignificant

/-- The lines of a program text. -/
def ofCode (code : List Char) : List Line :=
  numberFrom 0 (Text.lines code)

/-- The significant lines of a program text. -/
def ofProgram (code : List Char) : List Line :=
  significant (Text.lines code)

end Line

/-- What opens a block: a condition, a further condition, or neither. -/
inductive Header where
  /-- The first branch of a chain. -/
  | opening (guard : List Char)
  /-- A further branch, tried when no branch before it was taken. -/
  | alternative (guard : List Char)
  /-- The last branch, taken when no other was. -/
  | otherwise
deriving DecidableEq

namespace Header

/-- The guard behind a keyword. A blank or a bracket must set it off, and it cannot be blank. -/
def guard? (keyword head : List Char) : Option (List Char) :=
  match Text.after? keyword head with
  | some (c :: rest) =>
    let guard := Text.trim (c :: rest)
    if (Text.isBlank c || c == '(') && !guard.isEmpty then some guard else none
  | _ => none

/-- The header that a line is, if it is one. It ends in a colon. -/
def ofText? (text : List Char) : Option Header :=
  (Text.before? [':'] text).bind fun head =>
    if Text.trimEnd head == ['e', 'l', 's', 'e'] then some otherwise
    else
      match guard? ['e', 'l', 'i', 'f'] head with
      | some guard => some (alternative guard)
      | none => (guard? ['i', 'f'] head).map opening

end Header

end Autograder.Guest
