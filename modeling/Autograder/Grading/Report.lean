import Autograder.Grading.Display
import Autograder.Grading.Submission

/-!
# What those who are tested see

Two views of a graded submission. A report is made for those who hold the test cases: its rows show
the inputs. A view is made from the kept submission alone, with which no inputs are kept. In both
the rows of hidden cases show nothing of the case.
-/

namespace Autograder

/-- The report on a submission, made with its test cases at hand. -/
structure GradeReport where
  submissionId : Uuid
  finalScore : Float
  maxPossibleScore : Float
  passedCount : Nat
  totalCount : Nat
  validation : ValidationSummary
  testCaseResults : List DisplayTestCaseResult
  message : String
deriving DecidableEq

/-- The report on an answer of the grader. -/
def SubmissionResponse.report (response : SubmissionResponse) (cases : List TestCase) :
    GradeReport where
  submissionId := response.submissionId
  finalScore := response.evaluation.finalScore
  maxPossibleScore := response.evaluation.maxPossibleScore
  passedCount := response.evaluation.passedCount
  totalCount := response.evaluation.totalCount
  validation := response.validation
  testCaseResults := displayResults response.evaluation.testCaseResults cases
  message := response.message

/-- A kept submission as it is shown. -/
structure SubmissionView where
  submissionId : Uuid
  attemptId : String
  questionId : String
  language : Language
  code : String
  finalScore : Float
  maxPossibleScore : Float
  passedCount : Nat
  failedCount : Nat
  totalCount : Nat
  totalExecutionTimeMs : Nat
  maxExecutionTimeMs : Nat
  testCaseResults : List DisplayTestCaseResult
  submittedAt : Instant
  evaluatedAt : Instant
deriving DecidableEq

/-- The view of a kept submission. -/
def Submission.view (s : Submission) : SubmissionView where
  submissionId := s.id
  attemptId := s.attemptId
  questionId := s.questionId
  language := s.language
  code := s.code
  finalScore := s.result.finalScore
  maxPossibleScore := s.result.maxPossibleScore
  passedCount := s.result.passedCount
  failedCount := s.result.failedCount
  totalCount := s.result.totalCount
  totalExecutionTimeMs := s.result.totalExecutionTimeMs
  maxExecutionTimeMs := s.result.maxExecutionTimeMs
  testCaseResults := displayResults s.result.testCaseResults []
  submittedAt := s.submittedAt
  evaluatedAt := s.result.evaluatedAt

end Autograder
