import Autograder.Proofs.Grading.CaseRecord
import Autograder.Proofs.Store.History

/-!
# Sessions

What a grader does over a session: a row of calls, each a check or a submission, one after another.
Three things are followed through it. The answers of the calls, the programs and inputs that the
runner was asked for, and the submissions that are kept.

Each call by itself is described by `Grader.Honours`. A call in a language that is not supported
fails and leaves no trace, a program that is refused is never run, and every submission that is
answered is kept, also one whose program was refused. That the runner is left alone is said twice:
by the log of what it was asked, and by the fact that another runner would have made no difference.

For the session as a whole there are two equations. The log of the runner is what the calls ask for,
one call after another, and the store is the store of the submissions answered.

## Main definitions

* `Call`, `Reply`, `Grader.serve`, `Grader.serveAll` — calls, answers, and sessions made of them
* `Grader.asked` — what a call asks the runner for
* `Grader.Honours` — the contract of one call

## Main results

* `Grader.invocations_serve`, `Grader.store_serve` — one call
* `Grader.serveAll_honoured` — every call of every session
-/

namespace Autograder

/-! ### Calls and answers -/

/-- What a grader can be asked. A submission comes with the stamp that it is given. -/
inductive Call where
  | check (request : RunRequest)
  | submit (stamp : Stamp) (request : SubmissionRequest)

/-- The answer to a call. -/
inductive Reply where
  | checked (answer : Except GradeError RunResponse)
  | submitted (answer : Except GradeError SubmissionResponse)

namespace Call

/-- The language that the program is in, as it is given. -/
def language : Call → String
  | check request => request.language
  | submit _ request => request.language

def code : Call → String
  | check request => request.code
  | submit _ request => request.code

/-- The limits that replace those of the grader. -/
def config : Call → Option SandboxConfig
  | check request => request.config
  | submit _ request => request.config

/-- The inputs that the program is to be run on. -/
def inputs : Call → List String
  | check request => [request.input]
  | submit _ request => request.testCases.map TestCase.input

/-- The answer to a call that fails as a whole. -/
def failed (e : GradeError) : Call → Reply
  | check _ => .checked (.error e)
  | submit _ _ => .submitted (.error e)

end Call

/-- The submission that an answer speaks of, as it should be kept. -/
def SubmissionResponse.submission (response : SubmissionResponse) : Submission where
  id := response.submissionId
  attemptId := response.evaluation.attemptId
  questionId := response.evaluation.questionId
  code := response.evaluation.code
  language := response.evaluation.language
  result := response.evaluation
  submittedAt := response.evaluation.submittedAt

namespace Reply

/-- The submission of an answered submission. Other calls have none. -/
def submission? : Reply → Option Submission
  | submitted (.ok response) => some response.submission
  | _ => none

end Reply

/-- The call did not fail. A submission is answered under the identifier that it was given. -/
inductive Call.AnsweredBy : Call → Reply → Prop where
  | check {request : RunRequest} {response : RunResponse} :
    AnsweredBy (.check request) (.checked (.ok response))
  | submit {stamp : Stamp} {request : SubmissionRequest} {response : SubmissionResponse} :
    response.submissionId = stamp.id →
    AnsweredBy (.submit stamp request) (.submitted (.ok response))

/-! ### What the runner is asked -/

/-- The program and the input are small enough to be run. -/
def Fits (code input : String) : Prop :=
  code.utf8ByteSize ≤ maxSourceBytes ∧ input.utf8ByteSize ≤ maxInputBytes

instance (code input : String) : Decidable (Fits code input) :=
  inferInstanceAs (Decidable (_ ∧ _))

/-- The runs of a program on those of some inputs that fit, in order. -/
def runsOf (code : String) (inputs : List String) : List (String × String) :=
  (inputs.filter fun input => Fits code input).map (code, ·)

theorem runsOf_cons (code input : String) (inputs : List String) :
    runsOf code (input :: inputs) = runsOf code [input] ++ runsOf code inputs := by
  by_cases h : Fits code input <;> simp [runsOf, h]

theorem runsOf_subset {inputs inputs' : List String} (h : inputs ⊆ inputs') (code : String) :
    runsOf code inputs ⊆ runsOf code inputs' :=
  List.map_subset _ (List.filter_subset _ h)

theorem oversize?_eq_none_iff {code input : String} :
    oversize? code input = none ↔ Fits code input := by
  rw [oversize?, Fits]
  by_cases hcode : maxSourceBytes < code.utf8ByteSize
  · simp only [if_pos hcode, reduceCtorEq, false_iff]
    omega
  · by_cases hinput : maxInputBytes < input.utf8ByteSize
    · simp only [if_neg hcode, if_pos hinput, reduceCtorEq, false_iff]
      omega
    · simp only [if_neg hcode, if_neg hinput, true_iff]
      omega

/-- An execution asks the runner once if program and input fit, and not at all otherwise. -/
theorem invocations_executeGuarded (config : SandboxConfig) (runner : Runner) (activity : Activity)
    (code input : String) :
    (executeGuarded config runner activity code input).2.invocations =
      (runsOf code [input]).reverse ++ activity.invocations := by
  rw [executeGuarded]
  by_cases h : Fits code input
  · rw [oversize?_eq_none_iff.mpr h]
    simp [runsOf, h]
  · obtain ⟨reason, hreason⟩ := Option.ne_none_iff_exists'.mp (mt oversize?_eq_none_iff.mp h)
    rw [hreason]
    simp [runsOf, h]

/-- The two runners do the same with each of these programs and inputs. -/
def Runner.AgreesOn (runner runner' : Runner) (runs : List (String × String)) : Prop :=
  ∀ run ∈ runs, ∀ n, runner n run.1 run.2 = runner' n run.1 run.2

/-- An execution depends on what the runner does with a program and an input that fit. -/
theorem executeGuarded_congr {runner runner' : Runner} {code input : String}
    (h : runner.AgreesOn runner' (runsOf code [input])) (config : SandboxConfig)
    (activity : Activity) :
    executeGuarded config runner activity code input =
      executeGuarded config runner' activity code input := by
  rw [executeGuarded, executeGuarded]
  cases hsize : oversize? code input with
  | some reason => rfl
  | none =>
    have hfits : (code, input) ∈ runsOf code [input] := by
      simpa [runsOf] using oversize?_eq_none_iff.mp hsize
    dsimp only
    rw [h _ hfits]

namespace Grader

variable (grader : Grader)

/-- The same grader with another runner. -/
def withRunner (runner : Runner) : Grader :=
  { grader with runner }

/-- **One case.** It adds its own run to the log, if it fits. -/
theorem invocations_runCase (config : SandboxConfig) (code : String) (p : Progress)
    (c : TestCase) :
    (grader.runCase config code p c).activity.invocations =
      (runsOf code [c.input]).reverse ++ p.activity.invocations :=
  invocations_executeGuarded config grader.runner p.activity code c.input

/-- **All cases.** They add their runs to the log in order. -/
theorem invocations_foldl_runCase (config : SandboxConfig) (code : String) (p : Progress)
    (cases : List TestCase) :
    (cases.foldl (grader.runCase config code) p).activity.invocations =
      (runsOf code (cases.map TestCase.input)).reverse ++ p.activity.invocations := by
  induction cases generalizing p with
  | nil => rfl
  | cons c cases ih =>
    rw [List.map_cons, runsOf_cons, List.foldl_cons, ih, invocations_runCase, List.reverse_append,
      List.append_assoc]

variable {grader} in
/-- All cases depend on what the runner does with the runs that fit. -/
theorem foldl_runCase_congr {runner : Runner} {code : String} {cases : List TestCase}
    (h : runner.AgreesOn grader.runner (runsOf code (cases.map TestCase.input)))
    (config : SandboxConfig) (p : Progress) :
    cases.foldl ((grader.withRunner runner).runCase config code) p =
      cases.foldl (grader.runCase config code) p := by
  refine List.foldl_ext _ _ _ fun p c hc => ?_
  have hinput : [c.input] ⊆ cases.map TestCase.input := by
    simpa using ⟨c, hc, rfl⟩
  have hrun : runner.AgreesOn grader.runner (runsOf code [c.input]) := fun run hmem =>
    h run (runsOf_subset hinput code hmem)
  rw [runCase, runCase, withRunner, executeGuarded_congr hrun]

variable {grader} in
theorem runAll_congr {runner : Runner} {code : String} {cases : List TestCase}
    (h : runner.AgreesOn grader.runner (runsOf code (cases.map TestCase.input)))
    (config : SandboxConfig) (activity : Activity) :
    (grader.withRunner runner).runAll config code activity cases =
      grader.runAll config code activity cases := by
  rw [runAll, runAll, foldl_runCase_congr h]

/-- Why the program of a call is refused, if it is. -/
def refusal? (call : Call) : Option Refusal :=
  validate (call.config.getD grader.config) call.code

/-- The runs that a call asks the runner for: none if it fails or its program is refused, else one
for each input that fits. -/
def asked (call : Call) : List (String × String) :=
  if (Language.ofTag? call.language).isSome ∧ grader.refusal? call = none then
    runsOf call.code call.inputs
  else []

/-! ### Answers -/

/-- Answers one call. -/
def serve (session : Session) : Call → Reply × Session
  | .check request =>
    (.checked (grader.check session request).1, (grader.check session request).2)
  | .submit stamp request =>
    (.submitted (grader.submit stamp session request).1,
      (grader.submit stamp session request).2)

/-- The answer to a check of a program that was executed. -/
def checkedRun (request : RunRequest) (result : ExecutionResult) : RunResponse :=
  let sample : TestCase := ⟨1, request.input, request.expectedOutput, false⟩
  { result
    passed := (sample.judge result).isPassed
    validation := (Tally.empty.record 1 sample (sample.judge result) result).summary }

variable {grader} {session : Session} {call : Call}

/-- A call in a language that is not supported fails and changes nothing. -/
theorem serve_of_unsupported (h : Language.ofTag? call.language = none) :
    grader.serve session call =
      (call.failed (.unsupportedLanguage call.language), session) := by
  cases call with
  | check request =>
    change Language.ofTag? request.language = none at h
    rw [serve, check, language, h]
    rfl
  | submit stamp request =>
    change Language.ofTag? request.language = none at h
    rw [serve, submit, language, h]
    rfl

theorem check_of_refused {request : RunRequest} {supported : Language} {refusal : Refusal}
    (hlanguage : language request.language = .ok supported)
    (h : validate (request.config.getD grader.config) request.code = some refusal) :
    grader.check session request =
      (.ok (refusedRun refusal request.expectedOutput), session) := by
  rw [check, hlanguage]
  dsimp only
  rw [h]

/-- A check of a program that is not refused is one execution, judged. -/
theorem check_of_valid {request : RunRequest} {supported : Language}
    (hlanguage : language request.language = .ok supported)
    (h : validate (request.config.getD grader.config) request.code = none) :
    grader.check session request =
      let execution := executeGuarded (request.config.getD grader.config) grader.runner
        session.activity request.code request.input
      (.ok (checkedRun request execution.1), { session with activity := execution.2 }) := by
  rw [check, hlanguage]
  dsimp only
  rw [h]
  rfl

variable (grader session) in
/-- Every call in a supported language is answered. A submission is kept, anything else is not. -/
theorem serve_of_supported {supported : Language}
    (h : Language.ofTag? call.language = some supported) :
    call.AnsweredBy (grader.serve session call).1 ∧
      (grader.serve session call).2.store =
        ((grader.serve session call).1.submission?).elim session.store session.store.record := by
  have hlanguage : language call.language = .ok supported := by rw [language, h]
  cases call with
  | check request =>
    change language request.language = .ok supported at hlanguage
    rw [serve]
    cases hvalid : validate (request.config.getD grader.config) request.code with
    | some refusal =>
      rw [check_of_refused hlanguage hvalid]
      exact ⟨.check, rfl⟩
    | none =>
      rw [check_of_valid hlanguage hvalid]
      exact ⟨.check, rfl⟩
  | submit stamp request =>
    change language request.language = .ok supported at hlanguage
    rw [serve, submit_eq_ok grader stamp session hlanguage]
    exact ⟨.submit rfl, rfl⟩

variable (grader session call) in
/-- **One call, the store.** It gets the submission that the answer speaks of, if there is one. -/
theorem store_serve :
    (grader.serve session call).2.store =
      ((grader.serve session call).1.submission?).elim session.store session.store.record := by
  cases h : Language.ofTag? call.language with
  | none =>
    rw [serve_of_unsupported h]
    cases call <;> rfl
  | some supported => exact (grader.serve_of_supported session h).2

/-- A program that is refused is not run: the runner is left alone, and which one it is makes no
difference. -/
theorem serve_of_refused (h : grader.refusal? call ≠ none) :
    (grader.serve session call).2.activity = session.activity ∧
      ∀ runner, (grader.withRunner runner).serve session call = grader.serve session call := by
  obtain ⟨refusal, hrefusal⟩ := Option.ne_none_iff_exists'.mp h
  have hrefusal' : ∀ runner, (grader.withRunner runner).refusal? call = some refusal :=
    fun _ => hrefusal
  cases hsupported : Language.ofTag? call.language with
  | none => simp only [serve_of_unsupported hsupported, true_and, implies_true]
  | some supported =>
    have hlanguage : language call.language = .ok supported := by rw [language, hsupported]
    cases call with
    | check request =>
      change language request.language = .ok supported at hlanguage
      simp only [serve, check_of_refused hlanguage hrefusal,
        check_of_refused hlanguage (hrefusal' _), true_and, implies_true]
    | submit stamp request =>
      change language request.language = .ok supported at hlanguage
      simp only [serve, submit_eq_ok _ stamp session hlanguage, judge_of_refused hrefusal,
        judge_of_refused (hrefusal' _), true_and, implies_true]

variable (grader session call) in
/-- **One call, the runner.** It is asked for the runs of the call, each once, and for no others. -/
theorem invocations_serve :
    (grader.serve session call).2.activity.invocations =
      (grader.asked call).reverse ++ session.activity.invocations := by
  cases hsupported : Language.ofTag? call.language with
  | none =>
    rw [serve_of_unsupported hsupported, asked, hsupported]
    simp
  | some supported =>
    have hlanguage : language call.language = .ok supported := by rw [language, hsupported]
    cases hvalid : grader.refusal? call with
    | some refusal =>
      rw [(serve_of_refused (by simp [hvalid])).1, asked, hvalid]
      simp
    | none =>
      rw [asked, if_pos ⟨by simp [hsupported], hvalid⟩]
      cases call with
      | check request =>
        change language request.language = .ok supported at hlanguage
        rw [serve, check_of_valid hlanguage hvalid]
        exact invocations_executeGuarded _ _ _ _ _
      | submit stamp request =>
        change language request.language = .ok supported at hlanguage
        rw [serve, submit_eq_ok grader stamp session hlanguage, judge_of_valid hvalid]
        exact grader.invocations_foldl_runCase _ _ _ _

variable (session) in
/-- The answer to a call and the session after it depend on nothing that the runner does with other
programs and inputs than those it is asked for. -/
theorem serve_withRunner {runner : Runner}
    (h : runner.AgreesOn grader.runner (grader.asked call)) :
    (grader.withRunner runner).serve session call = grader.serve session call := by
  cases hsupported : Language.ofTag? call.language with
  | none => rw [serve_of_unsupported hsupported, serve_of_unsupported hsupported]
  | some supported =>
    have hlanguage : language call.language = .ok supported := by rw [language, hsupported]
    by_cases hvalid : grader.refusal? call = none
    · have hvalid' : (grader.withRunner runner).refusal? call = none := hvalid
      rw [asked, if_pos ⟨by simp [hsupported], hvalid⟩] at h
      cases call with
      | check request =>
        change language request.language = .ok supported at hlanguage
        have hrun := executeGuarded_congr h (request.config.getD grader.config) session.activity
        rw [serve, serve, check_of_valid hlanguage hvalid, check_of_valid hlanguage hvalid']
        exact congrArg (fun execution => (Reply.checked (.ok (checkedRun request execution.1)),
          ({ session with activity := execution.2 } : Session))) hrun
      | submit stamp request =>
        change language request.language = .ok supported at hlanguage
        have hruns := runAll_congr h (request.config.getD grader.config) session.activity
        rw [serve, serve, submit_eq_ok _ stamp session hlanguage,
          submit_eq_ok _ stamp session hlanguage, judge_of_valid hvalid, judge_of_valid hvalid']
        exact congrArg (fun judged =>
          (Reply.submitted (.ok (response request supported judged.1 stamp)),
            (⟨session.store.record (kept request supported judged.1 stamp), judged.2⟩ : Session)))
          hruns
    · exact (serve_of_refused hvalid).2 runner

/-! ### Sessions -/

variable (grader session)

/-- Answers calls one after another. -/
def serveAll (session : Session) : List Call → List Reply × Session
  | [] => ([], session)
  | call :: calls =>
    let first := grader.serve session call
    let rest := serveAll first.2 calls
    (first.1 :: rest.1, rest.2)

/-- **A whole session, the runner.** Its log is what the calls ask for, one call after another. -/
theorem invocations_serveAll (calls : List Call) :
    (grader.serveAll session calls).2.activity.invocations =
      (calls.flatMap grader.asked).reverse ++ session.activity.invocations := by
  induction calls generalizing session with
  | nil => rfl
  | cons call calls ih =>
    rw [serveAll, List.flatMap_cons, List.reverse_append, List.append_assoc, ← invocations_serve]
    exact ih _

/-- **A whole session, the store.** Its history goes on with the submissions that the answers speak
of, in the order of the calls. -/
theorem store_serveAll {past : List Submission} (h : session.store = Store.ofHistory past)
    (calls : List Call) :
    (grader.serveAll session calls).2.store =
      Store.ofHistory
        (past ++ (grader.serveAll session calls).1.filterMap Reply.submission?) := by
  induction calls generalizing session past with
  | nil => rw [serveAll, List.filterMap_nil, List.append_nil, h]
  | cons call calls ih =>
    have hstore := grader.store_serve session call
    rw [serveAll]
    cases hreply : (grader.serve session call).1.submission? with
    | none =>
      rw [hreply, Option.elim_none, h] at hstore
      rw [List.filterMap_cons_none hreply]
      exact ih _ hstore
    | some s =>
      rw [hreply, Option.elim_some, h, ← Store.ofHistory_concat] at hstore
      rw [List.filterMap_cons_some hreply, List.append_cons]
      exact ih _ hstore

/-! ### The contract -/

/-- What is promised of a call, between the sessions before and after it. -/
structure Honours (before : Session) (call : Call) (reply : Reply) (after : Session) : Prop where
  /-- A call in a language that is not supported fails as a whole and changes nothing. -/
  unsupported : Language.ofTag? call.language = none →
    reply = call.failed (.unsupportedLanguage call.language) ∧ after = before
  /-- Any other call is answered. -/
  answered : Language.ofTag? call.language ≠ none → call.AnsweredBy reply
  /-- A program that is refused is not run. -/
  refused : grader.refusal? call ≠ none → after.activity = before.activity
  /-- The runner is asked once for each input that fits, in order, and for nothing else. -/
  invocations : after.activity.invocations =
    (grader.asked call).reverse ++ before.activity.invocations
  /-- What another runner would have done with anything else makes no difference. -/
  silent : ∀ runner : Runner, runner.AgreesOn grader.runner (grader.asked call) →
    (grader.withRunner runner).serve before call = (reply, after)
  /-- A check keeps nothing. -/
  checked : ∀ request, call = .check request → after.store = before.store
  /-- An answered submission is kept under its identifier, with the evaluation in the answer. If
  the identifier is new, nothing else changes. -/
  kept : ∀ response, reply = .submitted (.ok response) →
    after.store = before.store.record response.submission ∧
      (before.store.get? response.submissionId = none →
        before.store.Adds response.submission after.store)

variable {session}

theorem honours_serve {past : List Submission} (h : session.store = Store.ofHistory past)
    (call : Call) :
    grader.Honours session call (grader.serve session call).1 (grader.serve session call).2 := by
  have hstore := grader.store_serve session call
  refine ⟨fun hlanguage => ?_, fun hlanguage => ?_, fun hrefused => (serve_of_refused hrefused).1,
    grader.invocations_serve session call, fun runner hruns => serve_withRunner session hruns,
    ?_, fun response hreply => ?_⟩
  · rw [serve_of_unsupported hlanguage]
    exact ⟨rfl, rfl⟩
  · obtain ⟨supported, hsupported⟩ := Option.ne_none_iff_exists'.mp hlanguage
    exact (grader.serve_of_supported session hsupported).1
  · rintro request rfl
    exact hstore
  · rw [hreply] at hstore
    refine ⟨hstore, fun hnew => ?_⟩
    rw [h] at hstore hnew ⊢
    rw [hstore]
    exact (Store.indexes_ofHistory past).adds_record hnew

/-- **Every session is honoured.** Whatever the store held at first and whatever was asked before,
the next call keeps its contract. The runner has been asked for what the calls ask for and nothing
else, and the store has got the submissions of the answers and nothing else. -/
theorem serveAll_honoured (past : List Submission) (activity : Activity) (calls : List Call) :
    let start : Session := ⟨Store.ofHistory past, activity⟩
    let session := (grader.serveAll start calls).2
    (∀ call,
      grader.Honours session call (grader.serve session call).1 (grader.serve session call).2) ∧
    session.activity.invocations =
      (calls.flatMap grader.asked).reverse ++ activity.invocations ∧
    session.store =
      Store.ofHistory
        (past ++ (grader.serveAll start calls).1.filterMap Reply.submission?) := by
  intro start session
  have hstore := grader.store_serveAll start rfl calls
  exact ⟨grader.honours_serve hstore, grader.invocations_serveAll start calls, hstore⟩

/-- A submission in a language that is not supported, one whose program is refused, and a check. -/
def sampleCalls : List Call :=
  let submission (code language : String) : Call :=
    .submit ⟨⟨1⟩, ⟨0, 0⟩, ⟨0, 0⟩⟩ ⟨"a", "q", code, language, [⟨1, "2", "2", false⟩], 10, none⟩
  [submission "print(1)" "ruby", submission "import os" "python",
    .check ⟨"print(input())", "py", "2", "2", none⟩]

/-- Of the three calls only the check is run. -/
theorem invocations_sampleCalls :
    (Grader.serveAll ⟨{}, interpreterRunner⟩ .empty sampleCalls).2.activity.invocations =
      [("print(input())", "2")] := by
  have hlog := (serveAll_honoured ⟨{}, interpreterRunner⟩ [] .idle sampleCalls).2.1
  refine hlog.trans ?_
  decide +kernel

end Grader

end Autograder
