import Autograder.Proofs.Grading.Independence
import Mathlib.Logic.Function.Iterate

/-!
# Grading step by step

`Grader.submit` grades a submission in one go. Where several are graded at once, others come in
between: a call executes one case after another, and keeps its submission at its end. Here a call
is taken apart into these steps. What it has come to so far is its own, and only the session is
shared.

Taken one after another without interruption, the steps are `submit`. Interrupted, they still lead
to the same answer, if the runner is steady and times are put aside: an execution sees of the
session only how often the runner was asked before.

## Main definitions

* `Task`, `Phase`, `Grader.advance` — a call, how far it has come, and its next step
* `SubmissionResponse.timeless` — an answer without its identifier and its times
* `Phase.AsAlone` — the call has come so far as it does alone

## Main results

* `Grader.iterate_advance` — the steps of a call that nothing interrupts are `submit`
* `Phase.AsAlone.advance` — whatever the session is, a step does what it does alone
-/

namespace Autograder

/-! ### Answers without times -/

/-- The tally without its times. -/
def Tally.untimed (t : Tally) : Tally :=
  { t with totalExecutionTimeMs := 0, maxExecutionTimeMs := 0 }

theorem Tally.untimed_record (t : Tally) (position : Nat) (c : TestCase) (v : Verdict)
    (result : ExecutionResult) :
    (t.record position c v result).untimed = t.untimed.record position c v result.untimed := by
  rw [record, record]
  split <;> rfl

/-- The progress without its times. What the runner was asked before is left out as well. -/
def Progress.untimed (p : Progress) : Progress :=
  ⟨p.tally.untimed, p.results.map TestCaseResult.untimed, .idle⟩

/-- The judgement without its times. -/
def Graded.untimed (graded : Graded) : Graded :=
  { graded with
    results := graded.results.map TestCaseResult.untimed
    totalExecutionTimeMs := 0
    maxExecutionTimeMs := 0 }

/-- The answer without the identifier of the submission, its moments and its times. -/
def SubmissionResponse.timeless (response : SubmissionResponse) : SubmissionResponse :=
  { response with
    submissionId := ⟨0⟩
    evaluation := { response.evaluation with
      testCaseResults := response.evaluation.testCaseResults.map TestCaseResult.untimed
      totalExecutionTimeMs := 0
      maxExecutionTimeMs := 0
      submittedAt := ⟨0, 0⟩
      evaluatedAt := ⟨0, 0⟩ } }

/-- What is judged once all cases are done. -/
def Progress.graded (p : Progress) : Graded where
  results := p.results.reverse
  summary := p.tally.summary
  message := p.tally.message
  totalExecutionTimeMs := p.tally.totalExecutionTimeMs
  maxExecutionTimeMs := p.tally.maxExecutionTimeMs
  rejected := false

theorem Grader.runAll_eq (grader : Grader) (config : SandboxConfig) (code : String)
    (activity : Activity) (cases : List TestCase) :
    let p := cases.foldl (grader.runCase config code) ⟨.empty, [], activity⟩
    grader.runAll config code activity cases = (p.graded, p.activity) := rfl

/-- Summary and sentence tell no times, so the judgement of a progress without times is the
judgement without times. -/
theorem Progress.untimed_graded (p : Progress) : p.graded.untimed = p.untimed.graded := by
  rw [graded, graded, Graded.untimed, untimed, List.map_reverse]
  rfl

/-! ### Steps -/

/-- A call: a submission to be graded, and the stamp that it is given. -/
structure Task where
  stamp : Stamp
  request : SubmissionRequest

/-- How far a call has come. -/
inductive Phase where
  /-- Nothing is done yet. -/
  | issued
  /-- Some cases are judged and some are left. The progress is that of this call, except that its
  activity is the one that the last execution of this call left behind. -/
  | judging (supported : Language) (p : Progress) (left : List TestCase)
  /-- All cases are judged, and the submission is still to be kept. -/
  | judged (supported : Language) (graded : Graded)
  | answered (answer : Except GradeError SubmissionResponse)

/-- The submission that the next step of a call keeps, if it does. -/
def Phase.keeping? (task : Task) : Phase → Option Submission
  | judged supported graded => some (Grader.kept task.request supported graded task.stamp)
  | _ => none

/-- How many steps are left, at most. -/
def Phase.stepsLeft (task : Task) : Phase → Nat
  | issued => task.request.testCases.length + 3
  | judging _ _ left => left.length + 2
  | judged _ _ => 1
  | answered _ => 0

theorem Phase.stepsLeft_eq_zero_iff {task : Task} {phase : Phase} :
    phase.stepsLeft task = 0 ↔ ∃ answer, phase = answered answer := by
  cases phase <;> simp [stepsLeft]

namespace Grader

variable (grader : Grader) (task : Task)

/-- The next step of a call: it is looked at, one of its cases is executed and judged, the cases
are summed up, or its submission is kept and the call is answered. -/
def advance : Phase × Session → Phase × Session
  | (.issued, session) =>
    match language task.request.language with
    | .error e => (.answered (.error e), session)
    | .ok supported =>
      match validate (task.request.config.getD grader.config) task.request.code with
      | some refusal => (.judged supported (refuseAll refusal task.request.testCases), session)
      | none =>
        (.judging supported ⟨.empty, [], session.activity⟩ task.request.testCases, session)
  | (.judging supported p (c :: left), session) =>
    let p := grader.runCase (task.request.config.getD grader.config) task.request.code
      { p with activity := session.activity } c
    (.judging supported p left, { session with activity := p.activity })
  | (.judging supported p [], session) => (.judged supported p.graded, session)
  | (.judged supported graded, session) =>
    (.answered (.ok (response task.request supported graded task.stamp)),
      { session with
        store := session.store.record (kept task.request supported graded task.stamp) })
  | (.answered answer, session) => (.answered answer, session)

/-- The first step of a call, by its language and its program. -/
theorem advance_issued (session : Session) :
    (∃ e, language task.request.language = .error e ∧
      grader.advance task (.issued, session) = (.answered (.error e), session)) ∨
    ∃ supported, language task.request.language = .ok supported ∧
      ((∃ refusal, validate (task.request.config.getD grader.config) task.request.code
            = some refusal ∧
          grader.advance task (.issued, session)
            = (.judged supported (refuseAll refusal task.request.testCases), session)) ∨
        (validate (task.request.config.getD grader.config) task.request.code = none ∧
          grader.advance task (.issued, session)
            = (.judging supported ⟨.empty, [], session.activity⟩ task.request.testCases,
                session))) := by
  rw [advance]
  cases language task.request.language with
  | error e => exact .inl ⟨e, rfl, rfl⟩
  | ok supported =>
    dsimp only
    refine .inr ⟨supported, rfl, ?_⟩
    cases validate (task.request.config.getD grader.config) task.request.code with
    | some refusal => exact .inl ⟨refusal, rfl, rfl⟩
    | none => exact .inr ⟨rfl, rfl⟩

/-- Every step leaves one less. -/
theorem stepsLeft_advance (phase : Phase) (session : Session) :
    (grader.advance task (phase, session)).1.stepsLeft task ≤ phase.stepsLeft task - 1 := by
  cases phase with
  | issued =>
    obtain ⟨e, _, h⟩ | ⟨supported, _, ⟨refusal, _, h⟩ | ⟨_, h⟩⟩ :=
      grader.advance_issued task session
    · rw [h]
      exact Nat.zero_le _
    · rw [h]
      exact Nat.succ_le_succ (Nat.zero_le _)
    · rw [h]
      exact Nat.le_refl _
  | judging supported p left => cases left <;> exact Nat.le_refl _
  | judged supported graded => exact Nat.le_refl _
  | answered answer => exact Nat.le_refl _

/-! ### A call that nothing interrupts -/

/-- All cases, one step for each. -/
theorem iterate_advance_judging (supported : Language) (left : List TestCase) (p : Progress)
    (store : Store) :
    let q := left.foldl
      (grader.runCase (task.request.config.getD grader.config) task.request.code) p
    (grader.advance task)^[left.length] (.judging supported p left, ⟨store, p.activity⟩)
      = (.judging supported q [], ⟨store, q.activity⟩) := by
  induction left generalizing p with
  | nil => rfl
  | cons c left ih => exact ih _

/-- **The steps of a call that nothing interrupts are `submit`.** -/
theorem iterate_advance (session : Session) :
    ∃ n ≤ Phase.issued.stepsLeft task, (grader.advance task)^[n] (.issued, session)
      = (.answered (grader.submit task.stamp session task.request).1,
          (grader.submit task.stamp session task.request).2) := by
  obtain ⟨e, hlanguage, hfirst⟩ | ⟨supported, hlanguage, ⟨refusal, hvalid, hfirst⟩ |
    ⟨hvalid, hfirst⟩⟩ := grader.advance_issued task session
  · refine ⟨1, by simp [Phase.stepsLeft], ?_⟩
    rw [Function.iterate_one, hfirst, submit, hlanguage]
  · refine ⟨2, by simp [Phase.stepsLeft], ?_⟩
    rw [Function.iterate_succ_apply, hfirst, submit_eq_ok grader task.stamp session hlanguage,
      judge_of_refused hvalid]
    rfl
  · -- One step for the first look, one for each case, one to sum up and one to keep.
    refine ⟨task.request.testCases.length + 3, Nat.le_refl _, ?_⟩
    have hcases := grader.iterate_advance_judging task supported task.request.testCases
      ⟨.empty, [], session.activity⟩ session.store
    rw [Function.iterate_succ_apply, hfirst, Nat.add_comm _ 2, Function.iterate_add_apply, hcases,
      submit_eq_ok grader task.stamp session hlanguage, judge_of_valid hvalid, runAll_eq]
    rfl

end Grader

/-! ### As alone -/

namespace Grader

variable {grader : Grader}

/-- What a case adds to a progress without times: it is read off the report without its time. -/
theorem untimed_runCase (config : SandboxConfig) (code : String) (p : Progress) (c : TestCase) :
    let result := (executeGuarded config grader.runner p.activity code c.input).1.untimed
    (grader.runCase config code p c).untimed =
      ⟨p.untimed.tally.record (p.untimed.results.length + 1) c (c.judge result) result,
        c.judged result :: p.untimed.results, .idle⟩ := by
  intro result
  have hlength : p.untimed.results.length = p.results.length := List.length_map _
  rw [runCase, Progress.untimed, Tally.untimed_record, hlength]
  rfl

/-- **One case.** With a steady runner a case adds the same whatever was executed before it. -/
theorem untimed_runCase_congr (hrunner : grader.runner.Steady) (config : SandboxConfig)
    (code : String) (c : TestCase) {p p' : Progress} (h : p'.untimed = p.untimed) :
    (grader.runCase config code p' c).untimed = (grader.runCase config code p c).untimed := by
  have hexecution := (hrunner code c.input).untimed_execute config p'.activity p.activity
  rw [untimed_runCase, untimed_runCase, h, hexecution]

/-- An answer without times is the answer to the judgement without times, at no moment. -/
theorem timeless_response (request : SubmissionRequest) (supported : Language) (graded : Graded)
    (stamp : Stamp) :
    (response request supported graded stamp).timeless =
      response request supported graded.untimed ⟨⟨0⟩, ⟨0, 0⟩, ⟨0, 0⟩⟩ := rfl

end Grader

/-- **The call has come so far as it does alone**, in a session without requests. Times apart, and
whatever stamp it is given there, it is in the same place. -/
inductive Phase.AsAlone (grader : Grader) (task : Task) : Phase → Prop where
  | issued : AsAlone grader task .issued
  | judging {supported : Language} {p : Progress} {done left : List TestCase}
    (hlanguage : Grader.language task.request.language = .ok supported)
    (hvalid : validate (task.request.config.getD grader.config) task.request.code = none)
    (hcases : done ++ left = task.request.testCases)
    (hprogress : p.untimed = (done.foldl
      (grader.runCase (task.request.config.getD grader.config) task.request.code)
      ⟨.empty, [], .idle⟩).untimed) :
    AsAlone grader task (.judging supported p left)
  | judged {supported : Language} {graded : Graded}
    (hlanguage : Grader.language task.request.language = .ok supported)
    (hgraded : graded.untimed = (grader.judge .idle task.request).1.untimed) :
    AsAlone grader task (.judged supported graded)
  | answered {answer : Except GradeError SubmissionResponse}
    (hanswer : ∀ stamp, answer.map SubmissionResponse.timeless =
      (grader.submit stamp .empty task.request).1.map SubmissionResponse.timeless) :
    AsAlone grader task (.answered answer)

/-- **One step.** Whatever the session is, a call that has come so far as alone does what it does
alone. -/
theorem Phase.AsAlone.advance {grader : Grader} (hrunner : grader.runner.Steady) {task : Task}
    {phase : Phase} (h : phase.AsAlone grader task) (session : Session) :
    (grader.advance task (phase, session)).1.AsAlone grader task := by
  cases h with
  | issued =>
    obtain ⟨e, hlanguage, h⟩ | ⟨supported, hlanguage, ⟨refusal, hvalid, h⟩ | ⟨hvalid, h⟩⟩ :=
      grader.advance_issued task session
    · rw [h]
      refine .answered fun stamp => ?_
      rw [Grader.submit, hlanguage]
    · rw [h]
      exact .judged hlanguage (by rw [Grader.judge_of_refused hvalid])
    · rw [h]
      exact .judging hlanguage hvalid (List.nil_append _) rfl
  | @judging supported p done left hlanguage hvalid hcases hprogress =>
    cases left with
    | nil =>
      rw [List.append_nil] at hcases
      refine .judged hlanguage ?_
      rw [Grader.judge_of_valid hvalid, Grader.runAll_eq, Progress.untimed_graded,
        Progress.untimed_graded, hprogress, hcases]
    | cons c left =>
      refine .judging hlanguage hvalid ((List.append_assoc done [c] left).trans hcases) ?_
      rw [List.foldl_concat]
      exact Grader.untimed_runCase_congr hrunner _ _ c hprogress
  | judged hlanguage hgraded =>
    refine .answered fun stamp => ?_
    rw [Grader.submit_eq_ok grader stamp .empty hlanguage, Except.map, Except.map,
      Grader.timeless_response, Grader.timeless_response, hgraded]
    rfl
  | answered hanswer => exact .answered hanswer

end Autograder
