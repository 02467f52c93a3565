import Autograder.Grading.Grader
import Mathlib.Data.List.Forall2

/-!
# The record of a case

What the record of one case depends on. The cases of a submission are graded one after another with
one progress, and a runner is told how often it was asked before, so a record could depend on the
cases in front of it. Here it is shown to depend on them in one way only: through that number. Each
record is `Grader.caseRecord` of its case, at some activity.

Two gradings of the same program can then be compared case by case. What the number may change is
for the runner to say. A runner is steady if it does the same with a program and an input every
time, apart from the time it takes; its records are the same up to their times.

## Main definitions

* `Run.fate`, `Runner.Steady` — what the sandbox sees of a run, and runners for which it does not
  change
* `Grader.caseRecord` — the record of a case by itself
* `Answers` — two answers to submissions, compared

## Main results

* `Grader.judge_records` — every record is the record of its case by itself
* `Grader.judge_untimed` — with a steady runner the records are a function of the cases
* `Grader.answers_submit` — answers are compared by the judgements they are made from
-/

namespace Autograder

/-! ### Times put aside -/

/-- The report without its time. -/
def ExecutionResult.untimed (result : ExecutionResult) : ExecutionResult :=
  { result with executionTimeMs := 0 }

/-- The record without its time. -/
def TestCaseResult.untimed (r : TestCaseResult) : TestCaseResult :=
  { r with executionTimeMs := 0 }

/-- What a run comes to for the sandbox: an outcome, a crash, or no end. A run that is late is not
told from one that never ends. -/
def Run.fate (run : Run) : Behaviour :=
  if run.timerFirst then .runsForever else run.behaviour

/-- Time apart, the report is one of the fate. -/
theorem Run.untimed_report (config : SandboxConfig) (run : Run) :
    (run.report config).untimed = Run.report config ⟨run.fate, false, 0⟩ := by
  obtain ⟨behaviour, timerFirst, elapsedMs⟩ := run
  cases timerFirst with
  | true => rfl
  | false =>
    cases behaviour with
    | crashes | runsForever => rfl
    | finishes outcome =>
      obtain ⟨output, error, exitCode⟩ := outcome
      cases error with
      | some error => rfl
      | none =>
        by_cases h : exitCode = 0 <;>
          simp [fate, report, h, ExecutionResult.untimed, ExecutionResult.completed,
            ExecutionResult.failed]

/-! ### Runners that do the same every time -/

namespace Runner

/-- Runs of this program on this input have the same fate every time. -/
def SteadyOn (runner : Runner) (code input : String) : Prop :=
  ∀ m n, (runner m code input).fate = (runner n code input).fate

/-- The fate of a run is a function of the program and the input. How long a run takes is not. -/
def Steady (runner : Runner) : Prop :=
  ∀ code input, runner.SteadyOn code input

/-- Runs of this program on this input are the same every time, the time they take included. -/
def RepeatsOn (runner : Runner) (code input : String) : Prop :=
  ∀ m n, runner m code input = runner n code input

variable {runner : Runner} {code input : String}

theorem RepeatsOn.execute (h : runner.RepeatsOn code input) (config : SandboxConfig)
    (activity activity' : Activity) :
    (executeGuarded config runner activity code input).1 =
      (executeGuarded config runner activity' code input).1 := by
  rw [executeGuarded, executeGuarded]
  cases oversize? code input with
  | some error => rfl
  | none => exact congrArg (Run.report config) (h _ _)

theorem SteadyOn.untimed_execute (h : runner.SteadyOn code input) (config : SandboxConfig)
    (activity activity' : Activity) :
    (executeGuarded config runner activity code input).1.untimed =
      (executeGuarded config runner activity' code input).1.untimed := by
  rw [executeGuarded, executeGuarded]
  cases oversize? code input with
  | some error => rfl
  | none =>
    dsimp only
    rw [Run.untimed_report, Run.untimed_report, h activity.invocations.length]

end Runner

theorem interpreterRunner_steady : interpreterRunner.Steady := fun _ _ _ _ => rfl

/-! ### One case -/

/-- The record of a case after an execution of it. -/
def TestCase.judged (c : TestCase) (result : ExecutionResult) : TestCaseResult :=
  c.record result (c.judge result)

theorem TestCase.untimed_judged (c : TestCase) (result : ExecutionResult) :
    (c.judged result).untimed = c.judged result.untimed := rfl

/-- The same request with other cases. -/
def SubmissionRequest.withCases (request : SubmissionRequest) (cases : List TestCase) :
    SubmissionRequest :=
  { request with testCases := cases }

namespace Grader

variable (grader : Grader) (request : SubmissionRequest)

/-- The record of a case by itself: that of a refused program, or that of an execution with some
activity before it. -/
def caseRecord (activity : Activity) (c : TestCase) : TestCaseResult :=
  let config := request.config.getD grader.config
  match validate config request.code with
  | some refusal => refusedCase refusal.message c
  | none => c.judged (executeGuarded config grader.runner activity request.code c.input).1

/-- The record is the record of the case by itself, for some activity before it. -/
def Records (c : TestCase) (r : TestCaseResult) : Prop :=
  ∃ activity, r = grader.caseRecord request activity c

theorem caseRecord_testCaseId (activity : Activity) (c : TestCase) :
    (grader.caseRecord request activity c).testCaseId = c.id := by
  rw [caseRecord]
  cases validate (request.config.getD grader.config) request.code <;> rfl

theorem caseRecord_hidden (activity : Activity) (c : TestCase) :
    (grader.caseRecord request activity c).hidden = c.isHidden := by
  rw [caseRecord]
  cases validate (request.config.getD grader.config) request.code <;> rfl

variable {grader request}

theorem caseRecord_of_repeatsOn {c : TestCase}
    (h : grader.runner.RepeatsOn request.code c.input) (activity activity' : Activity) :
    grader.caseRecord request activity c = grader.caseRecord request activity' c := by
  rw [caseRecord, caseRecord, h.execute _ activity activity']

theorem untimed_caseRecord_of_steadyOn {c : TestCase}
    (h : grader.runner.SteadyOn request.code c.input) (activity activity' : Activity) :
    (grader.caseRecord request activity c).untimed =
      (grader.caseRecord request activity' c).untimed := by
  rw [caseRecord, caseRecord]
  cases validate (request.config.getD grader.config) request.code with
  | some refusal => rfl
  | none =>
    dsimp only
    rw [TestCase.untimed_judged, TestCase.untimed_judged, h.untimed_execute _ activity activity']

/-! ### All cases -/

theorem results_runCase (config : SandboxConfig) (code : String) (p : Progress) (c : TestCase) :
    (grader.runCase config code p c).results =
      c.judged (executeGuarded config grader.runner p.activity code c.input).1 :: p.results := rfl

/-- **One case more.** The records stay those of their cases by themselves. -/
theorem runCase_records
    (hvalid : validate (request.config.getD grader.config) request.code = none)
    {cases : List TestCase} {p : Progress}
    (h : List.Forall₂ (grader.Records request) cases p.results.reverse) (c : TestCase) :
    List.Forall₂ (grader.Records request) (cases ++ [c])
      (grader.runCase (request.config.getD grader.config) request.code p c).results.reverse := by
  have hlast : grader.Records request c (c.judged (executeGuarded
      (request.config.getD grader.config) grader.runner p.activity request.code c.input).1) :=
    ⟨p.activity, by rw [caseRecord, hvalid]⟩
  rw [results_runCase, List.reverse_cons]
  exact List.rel_append h (.cons hlast .nil)

/-- **All cases.** The records stay those of their cases by themselves, from any point on. -/
theorem foldl_runCase_records
    (hvalid : validate (request.config.getD grader.config) request.code = none)
    {done : List TestCase} {p : Progress}
    (h : List.Forall₂ (grader.Records request) done p.results.reverse) (cases : List TestCase) :
    List.Forall₂ (grader.Records request) (done ++ cases)
      (cases.foldl (grader.runCase (request.config.getD grader.config) request.code)
        p).results.reverse := by
  induction cases generalizing done p with
  | nil => simpa using h
  | cons c cases ih => simpa using ih (runCase_records hvalid h c)

variable (grader request)

variable {grader request} in
theorem judge_of_refused {refusal : Refusal}
    (h : validate (request.config.getD grader.config) request.code = some refusal)
    (activity : Activity) :
    grader.judge activity request = (refuseAll refusal request.testCases, activity) := by
  rw [judge, h]

variable {grader request} in
theorem judge_of_valid (h : validate (request.config.getD grader.config) request.code = none)
    (activity : Activity) :
    grader.judge activity request = grader.runAll (request.config.getD grader.config) request.code
      activity request.testCases := by
  rw [judge, h]

/-- Every record is the record of its case by itself, also where the program is refused. -/
theorem judge_records (activity : Activity) :
    List.Forall₂ (grader.Records request) request.testCases
      (grader.judge activity request).1.results := by
  cases hvalid : validate (request.config.getD grader.config) request.code with
  | some refusal =>
    rw [judge_of_refused hvalid]
    refine List.forall₂_map_right_iff.mpr (List.forall₂_same.mpr fun c _ => ⟨activity, ?_⟩)
    rw [caseRecord, hvalid]
  | none =>
    rw [judge_of_valid hvalid]
    have hnil : List.Forall₂ (grader.Records request) []
        (Progress.results ⟨.empty, [], activity⟩).reverse := .nil
    exact foldl_runCase_records hvalid hnil request.testCases

variable {grader}

/-- With a steady runner the records are, time apart, a function of the cases. -/
theorem judge_untimed (h : grader.runner.Steady) (activity : Activity) :
    (grader.judge activity request).1.results.map TestCaseResult.untimed =
      request.testCases.map fun c => (grader.caseRecord request .idle c).untimed := by
  have hrecords := grader.judge_records request activity
  generalize (grader.judge activity request).1.results = results at hrecords ⊢
  generalize request.testCases = cases at hrecords ⊢
  induction hrecords with
  | nil => rfl
  | cons hr _ ih =>
    obtain ⟨activity, rfl⟩ := hr
    rw [List.map_cons, List.map_cons, ih,
      untimed_caseRecord_of_steadyOn (h _ _) activity .idle]

end Grader

/-! ### Two answers -/

/-- Two requests failed in the same way, or both were answered and the answers are related. -/
inductive Answers (R : SubmissionResponse → SubmissionResponse → Prop) :
    Except GradeError SubmissionResponse → Except GradeError SubmissionResponse → Prop where
  | failed (e : GradeError) : Answers R (.error e) (.error e)
  | given {response response' : SubmissionResponse} (h : R response response') :
    Answers R (.ok response) (.ok response')

namespace Grader

variable (grader : Grader)

/-- The answer to a submission in a supported language. -/
def response (request : SubmissionRequest) (language : Language) (graded : Graded)
    (stamp : Stamp) : SubmissionResponse where
  submissionId := stamp.id
  evaluation := evaluation request language graded stamp
  validation := graded.summary
  message := graded.message
  rejected := graded.rejected

/-- The submission that is kept. -/
def kept (request : SubmissionRequest) (language : Language) (graded : Graded) (stamp : Stamp) :
    Submission where
  id := stamp.id
  attemptId := request.attemptId
  questionId := request.questionId
  code := request.code
  language
  result := evaluation request language graded stamp
  submittedAt := stamp.submittedAt

theorem submit_eq_ok (stamp : Stamp) (session : Session) {request : SubmissionRequest}
    {supported : Language} (h : language request.language = .ok supported) :
    grader.submit stamp session request =
      (.ok (response request supported (grader.judge session.activity request).1 stamp),
        ⟨session.store.record
            (kept request supported (grader.judge session.activity request).1 stamp),
          (grader.judge session.activity request).2⟩) := by
  rw [submit, h]
  rfl

/-- The answers to two requests that differ in their cases only are compared by what was judged. -/
theorem answers_submit {request : SubmissionRequest} {cases : List TestCase}
    {R : SubmissionResponse → SubmissionResponse → Prop} {stamp stamp' : Stamp}
    {session session' : Session}
    (h : ∀ supported,
      language request.language = .ok supported →
      R (response request supported (grader.judge session.activity request).1 stamp)
        (response (request.withCases cases) supported
          (grader.judge session'.activity (request.withCases cases)).1 stamp')) :
    Answers R (grader.submit stamp session request).1
      (grader.submit stamp' session' (request.withCases cases)).1 := by
  cases hlanguage : language request.language with
  | error e =>
    have hfailed : language (request.withCases cases).language = .error e := hlanguage
    rw [submit, submit, hlanguage, hfailed]
    exact .failed e
  | ok supported =>
    have hsupported : language (request.withCases cases).language = .ok supported := hlanguage
    rw [submit_eq_ok grader stamp session hlanguage, submit_eq_ok grader stamp' session' hsupported]
    exact .given (h supported hlanguage)

end Grader

end Autograder
