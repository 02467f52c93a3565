import Autograder.Grading.Sandbox
import Autograder.Grading.Score
import Autograder.Grading.Store
import Autograder.Grading.Validation

/-!
# The grader

Validation, execution, judgement, score and record of a submission, and the check of a program on
one sample. A request for a language that is not supported fails as a whole; a program that is
refused is never run, and all its cases count as failed.

A session holds what outlives a request: the submissions, and what the runner has been asked.
-/

namespace Autograder

/-- What outlives a request. -/
structure Session where
  store : Store
  activity : Activity
deriving DecidableEq

/-- A session without requests. -/
def Session.empty : Session :=
  ⟨.empty, .idle⟩

/-- What a new submission is given: an identifier and two moments. -/
structure Stamp where
  id : Uuid
  submittedAt : Instant
  evaluatedAt : Instant
deriving DecidableEq

/-- A grader: its usual limits and its runner. -/
structure Grader where
  config : SandboxConfig
  runner : Runner

/-- The judgement of all cases of a submission. -/
structure Graded where
  results : List TestCaseResult
  summary : ValidationSummary
  message : String
  totalExecutionTimeMs : Nat
  maxExecutionTimeMs : Nat
  rejected : Bool
deriving DecidableEq

/-- The cases judged so far: the tally, their records, latest first, and the activity. -/
structure Progress where
  tally : Tally
  results : List TestCaseResult
  activity : Activity
deriving DecidableEq

namespace Grader

/-- The language of a request. -/
def language (tag : String) : Except GradeError Language :=
  match Language.ofTag? tag with
  | some language => .ok language
  | none => .error (.unsupportedLanguage tag)

/-- Executes and judges one case. -/
def runCase (grader : Grader) (config : SandboxConfig) (code : String) (p : Progress)
    (c : TestCase) : Progress :=
  let (result, activity) := executeGuarded config grader.runner p.activity code c.input
  let verdict := c.judge result
  { tally := p.tally.record (p.results.length + 1) c verdict result
    results := c.record result verdict :: p.results
    activity }

/-- Executes and judges all cases in order. -/
def runAll (grader : Grader) (config : SandboxConfig) (code : String) (activity : Activity)
    (cases : List TestCase) : Graded × Activity :=
  let p := cases.foldl (grader.runCase config code) ⟨.empty, [], activity⟩
  ({ results := p.results.reverse
     summary := p.tally.summary
     message := p.tally.message
     totalExecutionTimeMs := p.tally.totalExecutionTimeMs
     maxExecutionTimeMs := p.tally.maxExecutionTimeMs
     rejected := false }, p.activity)

/-- The record of a case whose program was refused. -/
def refusedCase (reason : String) (c : TestCase) : TestCaseResult where
  testCaseId := c.id
  passed := false
  actualOutput := ""
  expectedOutput := c.recordedOutput
  executionTimeMs := 0
  status := .error
  error := some reason
  hidden := c.isHidden

/-- All cases of a program that was refused: failed, and none executed. -/
def refuseAll (refusal : Refusal) (cases : List TestCase) : Graded where
  results := cases.map (refusedCase refusal.message)
  summary := {
    passed := false
    failedTestCase := some 1
    expected := none
    received := none
    error := some refusal.message
    totalTests := cases.length
    passedCount := 0
    failedCount := cases.length }
  message := (GradeError.validation refusal).message
  totalExecutionTimeMs := 0
  maxExecutionTimeMs := 0
  rejected := true

/-- The evaluation of a judged submission. -/
def evaluation (request : SubmissionRequest) (language : Language) (graded : Graded)
    (stamp : Stamp) : EvaluationResult :=
  let points := usablePoints request.maxPoints
  let total := request.testCases.length
  { questionId := request.questionId
    attemptId := request.attemptId
    code := request.code
    language
    testCaseResults := graded.results
    passedCount := graded.summary.passedCount
    failedCount := graded.summary.failedCount
    totalCount := total
    totalExecutionTimeMs := graded.totalExecutionTimeMs
    maxExecutionTimeMs := graded.maxExecutionTimeMs
    finalScore := Points.score graded.summary.passedCount total points
    maxPossibleScore := points
    submittedAt := stamp.submittedAt
    evaluatedAt := stamp.evaluatedAt }

/-- Judges the cases of a submission. -/
def judge (grader : Grader) (activity : Activity) (request : SubmissionRequest) :
    Graded × Activity :=
  let config := request.config.getD grader.config
  match validate config request.code with
  | some refusal => (refuseAll refusal request.testCases, activity)
  | none => grader.runAll config request.code activity request.testCases

/-- Grades a submission and keeps it. -/
def submit (grader : Grader) (stamp : Stamp) (session : Session) (request : SubmissionRequest) :
    Except GradeError SubmissionResponse × Session :=
  match language request.language with
  | .error e => (.error e, session)
  | .ok language =>
    let (graded, activity) := grader.judge session.activity request
    let evaluation := evaluation request language graded stamp
    let submission : Submission := {
      id := stamp.id
      attemptId := request.attemptId
      questionId := request.questionId
      code := request.code
      language
      result := evaluation
      submittedAt := stamp.submittedAt }
    (.ok {
      submissionId := stamp.id
      evaluation
      validation := graded.summary
      message := graded.message
      rejected := graded.rejected },
      ⟨session.store.record submission, activity⟩)

/-- The answer to a check of a program that was refused. -/
def refusedRun (refusal : Refusal) (expectedOutput : String) : RunResponse where
  result := ExecutionResult.failed "" refusal.message 0
  passed := false
  validation := {
    passed := false
    failedTestCase := some 1
    expected := some (normalizeOutput expectedOutput)
    received := none
    error := some refusal.message
    totalTests := 1
    passedCount := 0
    failedCount := 1 }

/-- Checks a program on one sample. Nothing is kept. -/
def check (grader : Grader) (session : Session) (request : RunRequest) :
    Except GradeError RunResponse × Session :=
  match language request.language with
  | .error e => (.error e, session)
  | .ok _ =>
    let config := request.config.getD grader.config
    match validate config request.code with
    | some refusal => (.ok (refusedRun refusal request.expectedOutput), session)
    | none =>
      let sample : TestCase := ⟨1, request.input, request.expectedOutput, false⟩
      let (result, activity) :=
        executeGuarded config grader.runner session.activity request.code sample.input
      let verdict := sample.judge result
      let tally := Tally.empty.record 1 sample verdict result
      (.ok { result, passed := verdict.isPassed, validation := tally.summary },
        { session with activity })

end Grader

end Autograder
