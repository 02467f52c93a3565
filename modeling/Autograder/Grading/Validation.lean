import Autograder.Grading.SandboxConfig
import Autograder.Guest.Line

/-!
# Validation

The check that a program has to pass before it is run. It looks at the text only: a program must
have a line that does something, and no forbidden construct may occur in it. Capital and small
letters are not told apart. The check is a cheap gate in front of the sandbox, not a boundary of
security.
-/

namespace Autograder

/-- Why a program is refused. -/
inductive Refusal where
  /-- There is nothing but blanks. -/
  | empty
  /-- Every line is blank or a comment. -/
  | onlyComments
  /-- A forbidden construct occurs. -/
  | forbidden (pattern : String)
deriving DecidableEq

/-- What a refusal says. -/
def Refusal.message : Refusal → String
  | empty => "Code cannot be empty"
  | onlyComments => "Code contains only comments"
  | forbidden pattern => "Forbidden construct detected: '" ++ pattern ++ "'"

/-- The first of the patterns that occurs in the code. -/
def findForbidden? (patterns : List String) (code : List Char) : Option String :=
  let folded := Text.lower code
  patterns.find? fun pattern => Text.contains pattern.toList folded

/-- The reason to refuse a program, if there is one. -/
def validate (config : SandboxConfig) (code : String) : Option Refusal :=
  if Text.allBlank code.toList then some .empty
  else if (Guest.Line.ofProgram code.toList).isEmpty then some .onlyComments
  else (findForbidden? config.mergedPatterns code.toList).map .forbidden

/-- Why a request as a whole fails. -/
inductive GradeError where
  | unsupportedLanguage (tag : String)
  | validation (refusal : Refusal)
deriving DecidableEq

/-- What the failure of a request says. -/
def GradeError.message : GradeError → String
  | unsupportedLanguage tag => "Unsupported language: " ++ tag
  | validation refusal => "Validation failed: " ++ refusal.message

end Autograder
