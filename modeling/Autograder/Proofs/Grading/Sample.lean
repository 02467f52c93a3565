import Autograder.Proofs.Grading.Sessions
import Autograder.Proofs.Grading.Steps

/-!
# A sample and a question of one case

A program can be checked on a sample, and it can be handed in for a question. Where the question
has that sample as its only case, and the case is visible, the two ways should come to the same.
They share the validator, the sandbox and the verdict, but each has its own account of a program
that is refused, and only one of them goes through a list of cases.

The comparison is between two executions, at two places of a session or in two sessions, so the
runner is taken to be steady. What it does not have to repeat is the time that it takes: neither
the summary nor anything else that is compared here tells times.

## Main definitions

* `RunRequest.asSubmission` — the submission for a question of one case
* `ExecutedAlike`, `RefusedAlike` — how the two answers compare

## Main results

* `Grader.check_submit_alike` — both programs are executed, or both are refused for one reason
-/

namespace Autograder

/-- The submission of a program for a question whose only case is the sample, visible, under some
identifier. -/
def RunRequest.asSubmission (request : RunRequest) (attempt question : String) (caseId : UInt32)
    (points : Float) : SubmissionRequest where
  attemptId := attempt
  questionId := question
  code := request.code
  language := request.language
  testCases := [⟨caseId, request.input, request.expectedOutput, false⟩]
  maxPoints := points
  config := request.config

/-- The program was executed. The check and the record of the case say the same of it. -/
structure ExecutedAlike (checked : RunResponse) (graded : SubmissionResponse)
    (r : TestCaseResult) : Prop where
  accepted : graded.rejected = false
  record : graded.evaluation.testCaseResults = [r]
  validation : checked.validation = graded.validation
  passed : checked.passed = r.passed
  output : checked.result.output = r.actualOutput
  status : checked.result.status = r.status
  /-- Of a completed execution only the record has an error, if its output is not the expected. -/
  error : checked.result.status ≠ .completed → checked.result.error = r.error

/-- The program was refused, for the same reason in both answers. -/
structure RefusedAlike (reason : String) (checked : RunResponse) (graded : SubmissionResponse) :
    Prop where
  rejected : graded.rejected = true
  result : checked.result = .failed "" reason 0
  /-- The check repeats what was expected, the submission does not. -/
  validation : { checked.validation with expected := none } =
    { graded.validation with expected := none }
  position : checked.validation.failedTestCase = some 1 ∧ graded.validation.failedTestCase = some 1
  error : checked.validation.error = some reason ∧ graded.validation.error = some reason

/-! ### One execution -/

/-- An execution that is not completed has an error. -/
theorem Run.exists_error_report {config : SandboxConfig} {run : Run}
    (h : (run.report config).status ≠ .completed) :
    ∃ reason, (run.report config).error = some reason := by
  obtain ⟨behaviour, timerFirst, elapsedMs⟩ := run
  cases timerFirst with
  | true => exact ⟨_, rfl⟩
  | false =>
    cases behaviour with
    | crashes | runsForever => exact ⟨_, rfl⟩
    | finishes outcome =>
      obtain ⟨output, error, exitCode⟩ := outcome
      cases error with
      | some error => exact ⟨_, rfl⟩
      | none =>
        by_cases hexit : exitCode = 0
        · refine absurd ?_ h
          simp [report, hexit, ExecutionResult.completed]
        · simp [report, hexit, ExecutionResult.failed]

theorem exists_error_executeGuarded {config : SandboxConfig} {runner : Runner}
    {activity : Activity} {code input : String}
    (h : (executeGuarded config runner activity code input).1.status ≠ .completed) :
    ∃ reason, (executeGuarded config runner activity code input).1.error = some reason := by
  rw [executeGuarded] at h ⊢
  cases hsize : oversize? code input with
  | some reason => exact ⟨reason, rfl⟩
  | none =>
    rw [hsize] at h
    exact Run.exists_error_report h

theorem executions_executeGuarded (config : SandboxConfig) (runner : Runner) (activity : Activity)
    (code input : String) :
    (executeGuarded config runner activity code input).2.executions = activity.executions + 1 := by
  rw [executeGuarded]
  cases oversize? code input <;> rfl

/-- The verdict on an execution with an error repeats that error, unless it was completed. -/
theorem TestCase.error?_judge {c : TestCase} {result : ExecutionResult} {reason : String}
    (herror : result.error = some reason) (hstatus : result.status ≠ .completed) :
    (c.judge result).error? = some reason := by
  rw [judge, classify, herror]
  cases h : result.status with
  | completed => exact absurd h hstatus
  | error | timeout => rfl

/-- Reports that are the same times apart differ in the time only. -/
theorem ExecutionResult.exists_eq_of_untimed_eq {result result' : ExecutionResult}
    (h : result'.untimed = result.untimed) :
    ∃ timeMs, result' = { result with executionTimeMs := timeMs } := by
  obtain ⟨success, output, error, timeMs, status⟩ := result'
  simp only [untimed, ExecutionResult.mk.injEq, true_and] at h
  obtain ⟨rfl, rfl, rfl, rfl⟩ := h
  exact ⟨timeMs, rfl⟩

namespace Grader

variable {grader : Grader}

/-- Two executions of one program on one input that differ at most in their times: what a check
says of the one is what a submission says of the other. -/
theorem executedAlike_response (request : RunRequest) {result result' : ExecutionResult}
    (htimes : result'.untimed = result.untimed)
    (herror : result.status ≠ .completed → ∃ reason, result.error = some reason)
    (submission : SubmissionRequest) (caseId : UInt32) (supported : Language) (stamp : Stamp) :
    let c : TestCase := ⟨caseId, request.input, request.expectedOutput, false⟩
    ExecutedAlike (checkedRun request result)
      (response submission supported
        (Progress.graded
          ⟨Tally.empty.record 1 c (c.judge result') result', [c.judged result'], .idle⟩) stamp)
      (c.judged result') := by
  intro c
  obtain ⟨timeMs, rfl⟩ := ExecutionResult.exists_eq_of_untimed_eq htimes
  refine ⟨rfl, rfl, ?_, rfl, rfl, rfl, fun hfailed => ?_⟩
  · -- The two tallies differ in their times, which no summary tells.
    change (Tally.record _ 1 _ (classify result request.expectedOutput) _).summary =
      (Tally.record _ 1 _ (classify result request.expectedOutput) _).summary
    rw [Tally.record, Tally.record]
    split <;> rfl
  · obtain ⟨reason, hreason⟩ := herror hfailed
    have hrecorded := TestCase.error?_judge (c := c) hreason hfailed
    exact hreason.trans hrecorded.symm

theorem refusedAlike_response {refusal : Refusal} {request : RunRequest}
    {submission : SubmissionRequest} {c : TestCase} {supported : Language} {stamp : Stamp} :
    RefusedAlike refusal.message (refusedRun refusal request.expectedOutput)
      (response submission supported (refuseAll refusal [c]) stamp) where
  rejected := rfl
  result := rfl
  validation := rfl
  position := ⟨rfl, rfl⟩
  error := ⟨rfl, rfl⟩

/-- **A check and a submission for the same sample come to the same.** Either both programs are
executed, and what is said of the two executions is the same; or none is, and both are refused for
the same reason. -/
theorem check_submit_alike (hrunner : grader.runner.Steady) (request : RunRequest)
    {supported : Language} (hlanguage : Language.ofTag? request.language = some supported)
    (attempt question : String) (caseId : UInt32) (points : Float) (stamp : Stamp)
    (session session' : Session) :
    ∃ checked graded after after',
      grader.check session request = (.ok checked, after) ∧
      grader.submit stamp session' (request.asSubmission attempt question caseId points) =
        (.ok graded, after') ∧
      (after.activity.executions = session.activity.executions + 1 ∧
          after'.activity.executions = session'.activity.executions + 1 ∧
          (∃ r, ExecutedAlike checked graded r) ∨
        after.activity = session.activity ∧ after'.activity = session'.activity ∧
          ∃ reason, RefusedAlike reason checked graded) := by
  have hsupported : language request.language = .ok supported := by rw [language, hlanguage]
  let submission := request.asSubmission attempt question caseId points
  have hsubmit : grader.submit stamp session' submission = _ :=
    submit_eq_ok grader stamp session' hsupported
  cases hvalid : validate (request.config.getD grader.config) request.code with
  | some refusal =>
    have hcheck : grader.check session request = _ := check_of_refused hsupported hvalid
    have hjudge : grader.judge session'.activity submission = _ :=
      judge_of_refused (by exact hvalid) _
    rw [hjudge] at hsubmit
    exact ⟨_, _, _, _, hcheck, hsubmit,
      .inr ⟨rfl, rfl, refusal.message, refusedAlike_response⟩⟩
  | none =>
    have hcheck : grader.check session request = _ := check_of_valid hsupported hvalid
    have hjudge : grader.judge session'.activity submission = _ :=
      judge_of_valid (by exact hvalid) _
    rw [hjudge] at hsubmit
    have htimes := (hrunner request.code request.input).untimed_execute
      (request.config.getD grader.config) session'.activity session.activity
    have halike := executedAlike_response request htimes exists_error_executeGuarded
      (request.asSubmission attempt question caseId points) caseId supported stamp
    exact ⟨_, _, _, _, hcheck, hsubmit, .inl ⟨executions_executeGuarded _ _ _ _ _,
      executions_executeGuarded _ _ _ _ _, _, halike⟩⟩

/-- Code that prints what it reads, with an input that makes the runner crash. -/
def crashingSample : RunRequest where
  code := "print(input())"
  language := "py"
  input := "crash"
  expectedOutput := "crash"
  config := none

theorem check_submit_crashingSample :
    moodyRunner.Steady ∧ Language.ofTag? crashingSample.language = some .python ∧
      ∃ checked graded after after',
        Grader.check ⟨{}, moodyRunner⟩ .empty crashingSample = (.ok checked, after) ∧
        Grader.submit ⟨{}, moodyRunner⟩ sampleStamp ⟨.empty, ⟨3, []⟩⟩
          (crashingSample.asSubmission "attempt" "question" 7 10) = (.ok graded, after') ∧
        (after.activity.executions = 1 ∧ after'.activity.executions = 4 ∧
            (∃ r, ExecutedAlike checked graded r) ∨
          after.activity = .idle ∧ after'.activity = ⟨3, []⟩ ∧
            ∃ reason, RefusedAlike reason checked graded) :=
  have hlanguage : Language.ofTag? crashingSample.language = some .python := by decide +kernel
  ⟨moodyRunner_steady, hlanguage,
    @check_submit_alike ⟨{}, moodyRunner⟩ moodyRunner_steady crashingSample _ hlanguage
      "attempt" "question" 7 10 sampleStamp .empty ⟨.empty, ⟨3, []⟩⟩⟩

end Grader

end Autograder
