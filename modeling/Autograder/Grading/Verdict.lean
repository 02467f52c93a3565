import Autograder.Grading.Case
import Autograder.Grading.Execution
import Autograder.Grading.Output

/-!
# Verdicts

What an execution is worth against the output that was expected. A timeout is looked at first, then
a failure; of a completed execution, output that is missing altogether is told apart from output
that differs.
-/

namespace Autograder

/-- The verdict on one execution. -/
inductive Verdict where
  | passed
  | executionFailed (error : String)
  | timedOut (error : String)
  | emptyOutput
  | mismatch
deriving DecidableEq

namespace Verdict

/-- The case is passed. -/
def isPassed : Verdict → Bool
  | passed => true
  | _ => false

/-- The error that is recorded with a case that is not passed. -/
def error? : Verdict → Option String
  | passed => none
  | executionFailed error => some error
  | timedOut error => some error
  | emptyOutput => some "No output produced"
  | mismatch => some "Output mismatch"

end Verdict

/-- The verdict on an execution. -/
def classify (result : ExecutionResult) (expectedOutput : String) : Verdict :=
  match result.status with
  | .timeout => .timedOut (result.error.getD "Time limit exceeded")
  | .error => .executionFailed (result.error.getD "Execution failed")
  | .completed =>
    let actual := normalizeOutput result.output
    let expected := normalizeOutput expectedOutput
    if actual.isEmpty && !expected.isEmpty then .emptyOutput
    else if actual == expected then .passed
    else .mismatch

/-- The record of one test case in a submission. -/
structure TestCaseResult where
  testCaseId : UInt32
  passed : Bool
  actualOutput : String
  /-- Empty if the case is hidden. -/
  expectedOutput : String
  executionTimeMs : Nat
  status : ExecutionStatus
  error : Option String
  hidden : Bool
deriving DecidableEq

/-- The expected output of a case as it is recorded. -/
def TestCase.recordedOutput (c : TestCase) : String :=
  if c.isHidden then "" else c.expectedOutput

/-- The record of a case with a given verdict. -/
def TestCase.record (c : TestCase) (result : ExecutionResult) (verdict : Verdict) :
    TestCaseResult where
  testCaseId := c.id
  passed := verdict.isPassed
  actualOutput := result.output
  expectedOutput := c.recordedOutput
  executionTimeMs := result.executionTimeMs
  status := result.status
  error := verdict.error?
  hidden := c.isHidden

/-- Judges an execution of a case. -/
def TestCase.judge (c : TestCase) (result : ExecutionResult) : Verdict :=
  classify result c.expectedOutput

end Autograder
