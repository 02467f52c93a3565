import Autograder.Proofs.Grading.Sample
import Autograder.Proofs.Service.Calls

/-!
# Executions and their counters

The service has two counters of executions, one by status and one that goes with the times. They are
not kept where programs are executed: each kind of request adds to them what it takes to have been
executed. Here that is compared with the number of executions that the grader attempted.

A submission adds its cases, unless its program was refused. A check adds one, and it does so also
when its program was refused and nothing was executed. So the counters are ahead of the executions
by the checks that were refused, and by nothing else.

## Main definitions

* `Metrics.Counts` — so many executions more were counted, by either counter
* `Grader.attempts`, `Grader.refusesCheck` — the executions of a call, and the checks in question

## Main results

* `Grader.executions_serve`, `Grader.counts_serve` — one call
* `Service.counts_handleAll` — the counters after any requests
-/

namespace Autograder

/-! ### Counters -/

/-- How many executed cases were counted, whatever their status. -/
def Metrics.caseTotal (m : Metrics) : Nat :=
  ExecutionStatus.all.foldl (fun n status => n + m.cases.count status) 0

/-- Either counter of executions has gone up by this number. -/
structure Metrics.Counts (before after : Metrics) (n : Nat) : Prop where
  executions : after.executions = before.executions + n
  caseTotal : after.caseTotal = before.caseTotal + n

namespace Metrics

theorem Counts.refl (m : Metrics) : m.Counts m 0 :=
  ⟨rfl, rfl⟩

theorem Counts.trans {m m' m'' : Metrics} {n n' : Nat} (h : m.Counts m' n) (h' : m'.Counts m'' n') :
    m.Counts m'' (n + n') where
  executions := by rw [h'.executions, h.executions, Nat.add_assoc]
  caseTotal := by rw [h'.caseTotal, h.caseTotal, Nat.add_assoc]

/-- An execution is counted once, under its status. -/
theorem counts_observeExecution (m : Metrics) (status : ExecutionStatus) (timeMs : Nat) :
    m.Counts (m.observeExecution status timeMs) 1 where
  executions := rfl
  caseTotal := by
    cases status <;>
      simp [caseTotal, observeExecution, ExecutionStatus.all, Tallies.count_increment] <;> omega

/-- A submission by itself is no execution. -/
theorem counts_observeSubmission (m : Metrics) (outcome : SubmissionOutcome) :
    m.Counts (m.observeSubmission outcome) 0 :=
  ⟨rfl, rfl⟩

/-- A call that failed is not counted. -/
theorem observe_failed (m : Metrics) (call : Call) (e : GradeError) :
    m.observe (call.failed e) = m := by
  cases call <;> rfl

/-- **All cases of a submission** are counted. -/
theorem counts_observeCases (m : Metrics) (results : List TestCaseResult) :
    m.Counts (m.observeCases results) results.length := by
  induction results generalizing m with
  | nil => exact .refl m
  | cons r results ih =>
    have hfirst := m.counts_observeExecution r.status r.executionTimeMs
    rw [List.length_cons, Nat.add_comm]
    exact hfirst.trans (ih _)

end Metrics

namespace Grader

variable (grader : Grader)

/-! ### One call -/

/-- How many executions a call attempts: none if it fails or its program is refused, else one for
each input. -/
def attempts (call : Call) : Nat :=
  if (Language.ofTag? call.language).isSome ∧ grader.refusal? call = none then call.inputs.length
  else 0

/-- The call is a check of a program that is refused, in a language that is supported. -/
def refusesCheck : Call → Bool
  | .check request =>
    (Language.ofTag? request.language).isSome && (grader.refusal? (.check request)).isSome
  | .submit _ _ => false

theorem executions_foldl_runCase (config : SandboxConfig) (code : String) (p : Progress)
    (cases : List TestCase) :
    (cases.foldl (grader.runCase config code) p).activity.executions =
      p.activity.executions + cases.length := by
  induction cases generalizing p with
  | nil => rfl
  | cons c cases ih =>
    have hcase : (grader.runCase config code p c).activity.executions =
        p.activity.executions + 1 :=
      executions_executeGuarded config grader.runner p.activity code c.input
    rw [List.foldl_cons, ih, hcase, List.length_cons, Nat.add_right_comm, Nat.add_assoc]

/-- **One call, the executions.** -/
theorem executions_serve (session : Session) (call : Call) :
    (grader.serve session call).2.activity.executions =
      session.activity.executions + grader.attempts call := by
  cases hsupported : Language.ofTag? call.language with
  | none =>
    rw [serve_of_unsupported hsupported, attempts, hsupported]
    simp
  | some supported =>
    have hlanguage : language call.language = .ok supported := by rw [language, hsupported]
    cases hvalid : grader.refusal? call with
    | some refusal =>
      rw [(serve_of_refused (by simp [hvalid])).1, attempts, hvalid]
      simp
    | none =>
      rw [attempts, if_pos ⟨by simp [hsupported], hvalid⟩]
      cases call with
      | check request =>
        rw [serve, check_of_valid hlanguage hvalid]
        exact executions_executeGuarded _ _ _ _ _
      | submit stamp request =>
        rw [serve, submit_eq_ok grader stamp session hlanguage, judge_of_valid hvalid, Call.inputs,
          List.length_map]
        exact grader.executions_foldl_runCase _ _ _ _

/-- What an answered check adds: one, whether or not its program was refused. -/
theorem counts_check (m : Metrics) (session : Session) {request : RunRequest}
    {supported : Language} (hlanguage : language request.language = .ok supported) :
    m.Counts (m.observe (grader.serve session (.check request)).1) 1 := by
  cases hvalid : validate (request.config.getD grader.config) request.code with
  | some refusal =>
    rw [serve, check_of_refused hlanguage hvalid]
    exact m.counts_observeExecution _ _
  | none =>
    rw [serve, check_of_valid hlanguage hvalid]
    exact m.counts_observeExecution _ _

/-- What an answered submission adds: its cases, unless its program was refused. -/
theorem counts_submit (m : Metrics) (session : Session) (stamp : Stamp)
    {request : SubmissionRequest} {supported : Language}
    (hlanguage : language request.language = .ok supported) :
    m.Counts (m.observe (grader.serve session (.submit stamp request)).1)
      (if grader.refusal? (.submit stamp request) = none then request.testCases.length else 0) := by
  obtain ⟨hconsistent, hrejected⟩ := grader.judge_consistent session.activity request
  rw [serve, submit_eq_ok grader stamp session hlanguage, Metrics.observe]
  cases hvalid : grader.refusal? (.submit stamp request) with
  | some refusal =>
    have hrejected : (grader.judge session.activity request).1.rejected = true :=
      hrejected.trans (congrArg Option.isSome hvalid)
    rw [response, if_pos hrejected, if_neg (by simp)]
    exact m.counts_observeSubmission _
  | none =>
    have hrejected : (grader.judge session.activity request).1.rejected = false :=
      hrejected.trans (congrArg Option.isSome hvalid)
    rw [response, if_neg (by simp [hrejected]), if_pos rfl, ← hconsistent.length, ← Nat.zero_add
      (List.length _)]
    exact (m.counts_observeSubmission _).trans (Metrics.counts_observeCases _ _)

/-- **One call, the counters.** They are ahead of the executions by a check that is refused. -/
theorem counts_serve (m : Metrics) (session : Session) (call : Call) :
    m.Counts (m.observe (grader.serve session call).1)
      (grader.attempts call + if grader.refusesCheck call then 1 else 0) := by
  cases hsupported : Language.ofTag? call.language with
  | none =>
    have hnone : grader.attempts call = 0 ∧ grader.refusesCheck call = false := by
      cases call <;> simp_all [attempts, refusesCheck, Call.language]
    rw [serve_of_unsupported hsupported, Metrics.observe_failed, hnone.1, hnone.2]
    exact .refl m
  | some supported =>
    have hlanguage : language call.language = .ok supported := by rw [language, hsupported]
    cases call with
    | check request =>
      have hone : grader.attempts (.check request) +
          (if grader.refusesCheck (.check request) then 1 else 0) = 1 := by
        rw [attempts, refusesCheck, hsupported]
        cases grader.refusal? (.check request) <;> simp_all [Call.language, Call.inputs]
      rw [hone]
      exact grader.counts_check m session hlanguage
    | submit stamp request =>
      have hcounts := grader.counts_submit m session stamp hlanguage
      rw [attempts, hsupported]
      simpa [refusesCheck, Call.inputs] using hcounts

end Grader

/-! ### Any requests -/

namespace Service

/-- The request is a check of a program that is refused. -/
def refusesCheck (service : Service) : Stamp × Request → Bool
  | (stamp, request) => (request.call? stamp).any service.grader.refusesCheck

/-- **One request.** -/
theorem Handled.counts {service : Service} {stamp : Stamp} {request : Request}
    {handled : Answer × Service} (h : service.Handled stamp request handled) :
    ∃ attempted,
      handled.2.session.activity.executions = service.session.activity.executions + attempted ∧
      service.metrics.Counts handled.2.metrics
        (attempted + if service.refusesCheck (stamp, request) then 1 else 0) := by
  cases h with
  | answered hcall _ =>
    refine ⟨0, rfl, ?_⟩
    rw [refusesCheck, hcall]
    exact .refl _
  | @called call hcall =>
    refine ⟨_, service.grader.executions_serve service.session call, ?_⟩
    rw [refusesCheck, hcall]
    exact service.grader.counts_serve service.metrics service.session call

/-- **The counters are ahead of the executions by the refused checks.** While requests are handled,
some number of executions is attempted, and either counter of executions goes up by that number and
by one for each check of a program that is refused. -/
theorem counts_handleAll (service : Service) (requests : List (Stamp × Request)) :
    let after := (service.handleAll requests).2
    ∃ attempted,
      after.session.activity.executions = service.session.activity.executions + attempted ∧
      service.metrics.Counts after.metrics
        (attempted + requests.countP service.refusesCheck) := by
  induction requests generalizing service with
  | nil => exact ⟨0, rfl, .refl _⟩
  | cons request requests ih =>
    obtain ⟨stamp, request⟩ := request
    have hhandled := service.handled_handle stamp request
    obtain ⟨first, hfirst, hcounts⟩ := hhandled.counts
    obtain ⟨later, hlater, hcounts'⟩ := ih (service.handle stamp request).2
    have hsame : (service.handle stamp request).2.refusesCheck = service.refusesCheck := by
      funext
      rw [refusesCheck, refusesCheck, hhandled.grader]
    rw [hsame] at hcounts'
    refine ⟨first + later, ?_, ?_⟩
    · rw [handleAll, hlater, hfirst, Nat.add_assoc]
    · have htotal :
          first + later + List.countP service.refusesCheck ((stamp, request) :: requests) =
          (first + if service.refusesCheck (stamp, request) then 1 else 0) +
            (later + requests.countP service.refusesCheck) := by
        rw [List.countP_cons]
        omega
      rw [htotal]
      exact hcounts.trans hcounts'

/-- A check of a program that imports what it must not. -/
def refusedRequest : Request where
  method := "POST"
  target := "/run"
  contentType := some "application/json"
  body := "\x7b\"code\":\"import os\",\"language\":\"python\"\x7d"

/-- One such check is counted as an execution, by either counter, and nothing is executed. -/
theorem refusedRequest_counted :
    let service := ((Service.start ⟨{}, interpreterRunner⟩).handleAll
      [(sampleStamp, refusedRequest)]).2
    service.session.activity.executions = 0 ∧ service.metrics.executions = 1 ∧
      service.metrics.caseTotal = 1 := by
  decide +kernel

end Service

end Autograder
