import Autograder.Grading.SandboxConfig
import Autograder.Grading.Tally
import Autograder.Instant
import Autograder.Uuid

/-!
# Submissions

What is asked of the grader and what it answers: a check of a program on one sample, and the
grading of a submission against all test cases of a question.
-/

namespace Autograder

/-- A check of a program on one sample. -/
structure RunRequest where
  code : String
  language : String
  input : String
  expectedOutput : String
  /-- Limits that replace those of the grader. -/
  config : Option SandboxConfig
deriving DecidableEq

/-- The answer to a check. -/
structure RunResponse where
  result : ExecutionResult
  passed : Bool
  validation : ValidationSummary
deriving DecidableEq

/-- A program handed in for a question. -/
structure SubmissionRequest where
  attemptId : String
  questionId : String
  code : String
  language : String
  testCases : List TestCase
  maxPoints : Float
  /-- Limits that replace those of the grader. -/
  config : Option SandboxConfig
deriving DecidableEq

/-- The result of grading a submission. -/
structure EvaluationResult where
  questionId : String
  attemptId : String
  code : String
  language : Language
  testCaseResults : List TestCaseResult
  passedCount : Nat
  failedCount : Nat
  totalCount : Nat
  totalExecutionTimeMs : Nat
  maxExecutionTimeMs : Nat
  finalScore : Float
  maxPossibleScore : Float
  submittedAt : Instant
  evaluatedAt : Instant
deriving DecidableEq

/-- A graded submission as it is kept. -/
structure Submission where
  id : Uuid
  attemptId : String
  questionId : String
  code : String
  language : Language
  result : EvaluationResult
  submittedAt : Instant
deriving DecidableEq

/-- The answer to a submission. -/
structure SubmissionResponse where
  submissionId : Uuid
  evaluation : EvaluationResult
  validation : ValidationSummary
  message : String
  /-- The program was refused and no case was executed. -/
  rejected : Bool
deriving DecidableEq

end Autograder
