import Autograder.Grading.Verdict

/-!
# Tallies

Running totals over the cases of a submission. Of the cases that fail only the first is described;
the others are counted.
-/

namespace Autograder

/-- The first case that failed. -/
structure FirstFailure where
  /-- Its place among the cases, counted from one. -/
  position : Nat
  expected : String
  received : String
  error : Option String
  hidden : Bool
deriving DecidableEq

/-- The totals over the cases so far. -/
structure Tally where
  passed : Nat
  failed : Nat
  totalExecutionTimeMs : Nat
  maxExecutionTimeMs : Nat
  firstFailure : Option FirstFailure
deriving DecidableEq

/-- What those who are tested learn about a submission as a whole. -/
structure ValidationSummary where
  passed : Bool
  /-- The place of the first case that failed, counted from one. -/
  failedTestCase : Option Nat
  expected : Option String
  received : Option String
  error : Option String
  totalTests : Nat
  passedCount : Nat
  failedCount : Nat
deriving DecidableEq

namespace Tally

/-- No cases yet. -/
def empty : Tally :=
  ⟨0, 0, 0, 0, none⟩

/-- Counts the case at a place. -/
def record (t : Tally) (position : Nat) (c : TestCase) (verdict : Verdict)
    (result : ExecutionResult) : Tally :=
  let total := t.totalExecutionTimeMs + result.executionTimeMs
  let longest := max t.maxExecutionTimeMs result.executionTimeMs
  if verdict.isPassed then ⟨t.passed + 1, t.failed, total, longest, t.firstFailure⟩
  else
    let failure := t.firstFailure.getD {
      position
      expected := normalizeOutput c.expectedOutput
      received := normalizeOutput result.output
      error := verdict.error?
      hidden := c.isHidden }
    ⟨t.passed, t.failed + 1, total, longest, some failure⟩

/-- How many cases have been counted. -/
def total (t : Tally) : Nat :=
  t.passed + t.failed

/-- There were cases and none failed. -/
def allPassed (t : Tally) : Bool :=
  t.failed == 0 && 0 < t.passed

/-- What is told about the cases. The content of a hidden case is left out. -/
def summary (t : Tally) : ValidationSummary :=
  let visible := t.firstFailure.filter fun f => !f.hidden
  { passed := t.allPassed
    failedTestCase := t.firstFailure.map FirstFailure.position
    expected := visible.map FirstFailure.expected
    received := visible.map FirstFailure.received
    error := t.firstFailure.bind FirstFailure.error
    totalTests := t.total
    passedCount := t.passed
    failedCount := t.failed }

/-- One sentence about the cases. -/
def message (t : Tally) : String :=
  if t.total = 0 then "No test cases to evaluate"
  else match t.firstFailure with
    | none => "🎉 All " ++ toString t.total ++ " test cases passed!"
    | some f =>
      if f.hidden then "Hidden test case " ++ toString f.position ++ " failed."
      else
        "Test case " ++ toString f.position ++ " failed. Expected: \"" ++ f.expected
          ++ "\", Received: \"" ++ f.received ++ "\""

end Tally

end Autograder
