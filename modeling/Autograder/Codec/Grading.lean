import Autograder.Codec.Record
import Autograder.Grading.Display
import Autograder.Grading.Submission

/-!
# Codecs of requests, results and submissions

The document form of everything that the grader takes in and gives back, and of what is shown of a
submission. Fields are written in the order in which they stand here.
-/

namespace Autograder

open Codec RecordField Record

/-- Languages by their tag. -/
def Language.codec : Codec Language :=
  oneOf [(Language.python.tag, .python)] Language.tag

/-- Statuses by their name. -/
def ExecutionStatus.codec : Codec ExecutionStatus :=
  oneOf ([.completed, .error, .timeout].map fun s => (ExecutionStatus.name s, s))
    ExecutionStatus.name

/-- Identifiers by their text. -/
def Uuid.codec : Codec Uuid :=
  written (fun id => String.ofList id.text) fun s => Uuid.ofText? s.toList

/-- Instants by their text. -/
def Instant.codec : Codec Instant :=
  written (fun t => String.ofList t.text) fun s => Instant.ofText? s.toList

/-- Test cases; one is visible unless it says that it is hidden. -/
def TestCase.codec : Codec TestCase :=
  (cons (required "id" word32) <|
    cons (required "input" string) <|
    cons (required "expected_output" string) <|
    cons (defaulted "is_hidden" bool false) nil).codec
    (fun (id, input, expectedOutput, isHidden, _) => ⟨id, input, expectedOutput, isHidden⟩)
    (fun c => (c.id, c.input, c.expectedOutput, c.isHidden, ()))

/-- Reports of an execution. -/
def ExecutionResult.codec : Codec ExecutionResult :=
  (cons (required "success" bool) <|
    cons (required "output" string) <|
    cons (optional "error" string) <|
    cons (required "execution_time_ms" count) <|
    cons (required "status" ExecutionStatus.codec) nil).codec
    (fun (success, output, error, time, status, _) => ⟨success, output, error, time, status⟩)
    (fun r => (r.success, r.output, r.error, r.executionTimeMs, r.status, ()))

/-- Records of a case. -/
def TestCaseResult.codec : Codec TestCaseResult :=
  (cons (required "test_case_id" word32) <|
    cons (required "passed" bool) <|
    cons (required "actual_output" string) <|
    cons (required "expected_output" string) <|
    cons (required "execution_time_ms" count) <|
    cons (required "status" ExecutionStatus.codec) <|
    cons (optional "error" string) <|
    cons (defaulted "hidden" bool false) nil).codec
    (fun (id, passed, actual, expected, time, status, error, hidden, _) =>
      ⟨id, passed, actual, expected, time, status, error, hidden⟩)
    (fun r => (r.testCaseId, r.passed, r.actualOutput, r.expectedOutput, r.executionTimeMs,
      r.status, r.error, r.hidden, ()))

/-- Rows that are shown of a case. -/
def DisplayTestCaseResult.codec : Codec DisplayTestCaseResult :=
  (cons (required "test_case_id" word32) <|
    cons (required "passed" bool) <|
    cons (required "hidden" bool) <|
    cons (sparse "input" string) <|
    cons (sparse "expected_output" string) <|
    cons (sparse "actual_output" string) <|
    cons (required "execution_time_ms" count) <|
    cons (required "status" ExecutionStatus.codec) <|
    cons (optional "error" string) nil).codec
    (fun (id, passed, hidden, input, expected, actual, time, status, error, _) =>
      ⟨id, passed, hidden, input, expected, actual, time, status, error⟩)
    (fun r => (r.testCaseId, r.passed, r.hidden, r.input, r.expectedOutput, r.actualOutput,
      r.executionTimeMs, r.status, r.error, ()))

/-- Summaries. -/
def ValidationSummary.codec : Codec ValidationSummary :=
  (cons (required "passed" bool) <|
    cons (optional "failed_test_case" count) <|
    cons (optional "expected" string) <|
    cons (optional "received" string) <|
    cons (optional "error" string) <|
    cons (required "total_tests" count) <|
    cons (required "passed_count" count) <|
    cons (required "failed_count" count) nil).codec
    (fun (passed, position, expected, received, error, total, passedCount, failedCount, _) =>
      ⟨passed, position, expected, received, error, total, passedCount, failedCount⟩)
    (fun s => (s.passed, s.failedTestCase, s.expected, s.received, s.error, s.totalTests,
      s.passedCount, s.failedCount, ()))

/-- Limits; each has a usual value. -/
def SandboxConfig.codec : Codec SandboxConfig :=
  (cons (defaulted "timeout_ms" word64 5000) <|
    cons (defaulted "max_output_length" word64 10000) <|
    cons (defaulted "blocked_patterns" string.list []) nil).codec
    (fun (timeout, length, patterns, _) => ⟨timeout, length, patterns⟩)
    (fun c => (c.timeoutMs, c.maxOutputLength, c.blockedPatterns, ()))

/-- Checks of a program. -/
def RunRequest.codec : Codec RunRequest :=
  (cons (required "code" string) <|
    cons (required "language" string) <|
    cons (defaulted "input" string "") <|
    cons (defaulted "expected_output" string "") <|
    cons (defaulted "config" SandboxConfig.codec.option none) nil).codec
    (fun (code, language, input, expected, config, _) => ⟨code, language, input, expected, config⟩)
    (fun r => (r.code, r.language, r.input, r.expectedOutput, r.config, ()))

/-- Answers to a check. -/
def RunResponse.codec : Codec RunResponse :=
  (cons (required "result" ExecutionResult.codec) <|
    cons (required "passed" bool) <|
    cons (required "validation" ValidationSummary.codec) nil).codec
    (fun (result, passed, validation, _) => ⟨result, passed, validation⟩)
    (fun r => (r.result, r.passed, r.validation, ()))

/-- Submissions that are handed in. -/
def SubmissionRequest.codec : Codec SubmissionRequest :=
  (cons (required "attempt_id" string) <|
    cons (required "question_id" string) <|
    cons (required "code" string) <|
    cons (required "language" string) <|
    cons (required "test_cases" TestCase.codec.list) <|
    cons (required "max_points" float) <|
    cons (defaulted "config" SandboxConfig.codec.option none) nil).codec
    (fun (attempt, question, code, language, cases, points, config, _) =>
      ⟨attempt, question, code, language, cases, points, config⟩)
    (fun r => (r.attemptId, r.questionId, r.code, r.language, r.testCases, r.maxPoints, r.config,
      ()))

/-- Results of grading. -/
def EvaluationResult.codec : Codec EvaluationResult :=
  (cons (required "question_id" string) <|
    cons (required "attempt_id" string) <|
    cons (required "code" string) <|
    cons (required "language" Language.codec) <|
    cons (required "test_case_results" TestCaseResult.codec.list) <|
    cons (required "passed_count" count) <|
    cons (required "failed_count" count) <|
    cons (required "total_count" count) <|
    cons (required "total_execution_time_ms" count) <|
    cons (required "max_execution_time_ms" count) <|
    cons (required "final_score" float) <|
    cons (required "max_possible_score" float) <|
    cons (required "submitted_at" Instant.codec) <|
    cons (required "evaluated_at" Instant.codec) nil).codec
    (fun (question, attempt, code, language, results, passed, failed, total, time, longest, score,
        points, submitted, evaluated, _) =>
      ⟨question, attempt, code, language, results, passed, failed, total, time, longest, score,
        points, submitted, evaluated⟩)
    (fun e => (e.questionId, e.attemptId, e.code, e.language, e.testCaseResults, e.passedCount,
      e.failedCount, e.totalCount, e.totalExecutionTimeMs, e.maxExecutionTimeMs, e.finalScore,
      e.maxPossibleScore, e.submittedAt, e.evaluatedAt, ()))

/-- Submissions as they are kept. -/
def Submission.codec : Codec Submission :=
  (cons (required "id" Uuid.codec) <|
    cons (required "attempt_id" string) <|
    cons (required "question_id" string) <|
    cons (required "code" string) <|
    cons (required "language" Language.codec) <|
    cons (required "result" EvaluationResult.codec) <|
    cons (required "submitted_at" Instant.codec) nil).codec
    (fun (id, attempt, question, code, language, result, submitted, _) =>
      ⟨id, attempt, question, code, language, result, submitted⟩)
    (fun s => (s.id, s.attemptId, s.questionId, s.code, s.language, s.result, s.submittedAt, ()))

/-- Answers to a submission. -/
def SubmissionResponse.codec : Codec SubmissionResponse :=
  (cons (required "submission_id" Uuid.codec) <|
    cons (required "evaluation" EvaluationResult.codec) <|
    cons (required "validation" ValidationSummary.codec) <|
    cons (required "message" string) <|
    cons (defaulted "rejected" bool false) nil).codec
    (fun (id, evaluation, validation, message, rejected, _) =>
      ⟨id, evaluation, validation, message, rejected⟩)
    (fun r => (r.submissionId, r.evaluation, r.validation, r.message, r.rejected, ()))

end Autograder
