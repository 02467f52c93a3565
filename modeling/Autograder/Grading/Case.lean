import Autograder.Text.Casing
import Autograder.Text.Blank

/-!
# Test cases

What a question consists of: its language and its test cases.
-/

namespace Autograder

/-- The languages in which programs are accepted. -/
inductive Language where
  | python
deriving DecidableEq, Repr

namespace Language

/-- The name under which a language is recorded. -/
def tag : Language → String
  | python => "python"

/-- The language that a tag asks for. Case and blanks around the tag do not matter. -/
def ofTag? (text : String) : Option Language :=
  let tag := String.ofList (Text.lower (Text.trim text.toList))
  if ["python", "python3", "py"].contains tag then some python else none

end Language

/-- One test of a program: its input and the output that is expected. The content of a hidden case
is not shown to those who are tested. -/
structure TestCase where
  id : UInt32
  input : String
  expectedOutput : String
  isHidden : Bool
deriving DecidableEq

end Autograder
