import Autograder.Codec.Grading
import Autograder.Grading.Report

/-!
# Codecs of reports and views

The document form of what those who are tested see of a submission.
-/

namespace Autograder

open Codec RecordField Record

/-- Reports. -/
def GradeReport.codec : Codec GradeReport :=
  (cons (required "submission_id" Uuid.codec) <|
    cons (required "final_score" float) <|
    cons (required "max_possible_score" float) <|
    cons (required "passed_count" count) <|
    cons (required "total_count" count) <|
    cons (required "validation" ValidationSummary.codec) <|
    cons (required "test_case_results" DisplayTestCaseResult.codec.list) <|
    cons (required "message" string) nil).codec
    (fun (id, score, points, passed, total, validation, rows, message, _) =>
      ⟨id, score, points, passed, total, validation, rows, message⟩)
    (fun r => (r.submissionId, r.finalScore, r.maxPossibleScore, r.passedCount, r.totalCount,
      r.validation, r.testCaseResults, r.message, ()))

/-- Views of a kept submission. -/
def SubmissionView.codec : Codec SubmissionView :=
  (cons (required "submission_id" Uuid.codec) <|
    cons (required "attempt_id" string) <|
    cons (required "question_id" string) <|
    cons (required "language" Language.codec) <|
    cons (required "code" string) <|
    cons (required "final_score" float) <|
    cons (required "max_possible_score" float) <|
    cons (required "passed_count" count) <|
    cons (required "failed_count" count) <|
    cons (required "total_count" count) <|
    cons (required "total_execution_time_ms" count) <|
    cons (required "max_execution_time_ms" count) <|
    cons (required "test_case_results" DisplayTestCaseResult.codec.list) <|
    cons (required "submitted_at" Instant.codec) <|
    cons (required "evaluated_at" Instant.codec) nil).codec
    (fun (id, attempt, question, language, code, score, points, passed, failed, total, time,
        longest, rows, submitted, evaluated, _) =>
      ⟨id, attempt, question, language, code, score, points, passed, failed, total, time, longest,
        rows, submitted, evaluated⟩)
    (fun v => (v.submissionId, v.attemptId, v.questionId, v.language, v.code, v.finalScore,
      v.maxPossibleScore, v.passedCount, v.failedCount, v.totalCount, v.totalExecutionTimeMs,
      v.maxExecutionTimeMs, v.testCaseResults, v.submittedAt, v.evaluatedAt, ()))

end Autograder
