import Autograder.Grading.Verdict

/-!
# What is shown of the cases

The rows that those who are tested see. The input of a row is looked up among the test cases by its
identifier. A row is hidden if its record is, or the case found for it; a hidden row shows neither
input nor expected nor actual output.
-/

namespace Autograder

/-- One row. -/
structure DisplayTestCaseResult where
  testCaseId : UInt32
  passed : Bool
  hidden : Bool
  input : Option String
  expectedOutput : Option String
  actualOutput : Option String
  executionTimeMs : Nat
  status : ExecutionStatus
  error : Option String
deriving DecidableEq

/-- The row of a record. -/
def TestCaseResult.display (cases : List TestCase) (r : TestCaseResult) : DisplayTestCaseResult :=
  let found := cases.find? fun c => c.id == r.testCaseId
  let hidden := r.hidden || found.any TestCase.isHidden
  { testCaseId := r.testCaseId
    passed := r.passed
    hidden
    input := if hidden then none else found.map TestCase.input
    expectedOutput := if hidden then none else some r.expectedOutput
    actualOutput := if hidden then none else some r.actualOutput
    executionTimeMs := r.executionTimeMs
    status := r.status
    error := r.error }

/-- The rows of a submission. -/
def displayResults (results : List TestCaseResult) (cases : List TestCase) :
    List DisplayTestCaseResult :=
  results.map (TestCaseResult.display cases)

end Autograder
