import Autograder.Codec.Grading

/-!
# Lists of test cases

The test cases of a question, read from a document. An identifier stands for one case only, since
the rows of a report are matched to the cases by it.
-/

namespace Autograder

/-- Why a text is no list of test cases. -/
inductive CaseListError where
  /-- It is not a document that fits. -/
  | unfit (reason : DecodeError)
  /-- A case has the identifier of an earlier one. -/
  | duplicateId (id : UInt32)
deriving DecidableEq

/-- What is said about a text that is no list of test cases. -/
def CaseListError.message : CaseListError → String
  | unfit _ => "Test cases must be a JSON array"
  | duplicateId id => "Duplicate test case id " ++ toString id.toNat

/-- The first identifier that is among those seen or repeats an earlier one. -/
def repeatedId? (seen : List UInt32) : List TestCase → Option UInt32
  | [] => none
  | c :: cases => if seen.contains c.id then some c.id else repeatedId? (c.id :: seen) cases

/-- The test cases that a text spells. -/
def readCases (text : String) : Except CaseListError (List TestCase) :=
  match TestCase.codec.list.read text.toList with
  | .error reason => .error (.unfit reason)
  | .ok cases =>
    match repeatedId? [] cases with
    | some id => .error (.duplicateId id)
    | none => .ok cases

end Autograder
