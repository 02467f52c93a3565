import Autograder.Proofs.Grading.Sessions
import Autograder.Service.Application

/-!
# Requests as calls of the grader

The service decides by a request's path, method and body what is asked of it. Most of what it can be
asked only looks things up, and much fails before the grader hears of it. What is left are the
requests that come to a call of the grader, and only these change anything.

So there are two things that handling a request can come to, `Service.Handled`: an answer and
nothing else, or a reply of the grader, which is passed on and counted. Whatever is said below about
the store or the counters of the service splits on these two and does not look at routes again.

## Main definitions

* `Request.route?`, `Request.call?` — what a request asks for, and the call that it comes to
* `Reply.answer`, `Metrics.observe` — how a reply is passed on, and how it is counted
* `Service.handleAll` — requests handled one after another

## Main results

* `Service.handled_handle` — what handling a request can come to
-/

namespace Autograder

/-! ### What a request asks for -/

/-- What a request asks for, with the parameters of its path read. There is nothing that it asks for
if its path is none, its method is not the right one, or a parameter is no text. -/
def Request.route? (request : Request) : Option (Route String) :=
  (Route.ofTarget? request.target).bind fun route =>
    if route.accepts request.method then route.decode? else none

/-- The call of the grader that a request comes to, if it does. -/
def Request.call? (stamp : Stamp) (request : Request) : Option Call :=
  match request.route? with
  | some .run => (request.read RunRequest.codec).toOption.map .check
  | some .submit => (request.read SubmissionRequest.codec).toOption.map (.submit stamp)
  | _ => none

/-- The answer that a reply of the grader is passed on as. -/
def Reply.answer : Reply → Answer
  | checked (.ok response) => .checked response
  | submitted (.ok response) => .graded response
  | checked (.error e) => .gradingFailed e
  | submitted (.error e) => .gradingFailed e

/-- The outcome under which an answered submission is counted. -/
def SubmissionResponse.outcome (response : SubmissionResponse) : SubmissionOutcome :=
  .ofCounts response.evaluation.passedCount response.evaluation.totalCount response.rejected

/-- The counters after a reply of the grader. -/
def Metrics.observe (m : Metrics) : Reply → Metrics
  | .checked (.ok response) =>
    m.observeExecution response.result.status response.result.executionTimeMs
  | .submitted (.ok response) =>
    if response.rejected then m.observeSubmission response.outcome
    else (m.observeSubmission response.outcome).observeCases response.evaluation.testCaseResults
  | _ => m

namespace Service

variable {service : Service} {stamp : Stamp} {request : Request}

/-- A reply of the grader is passed on, and the service goes on with what the grader left. -/
def passOn (service : Service) (replied : Reply × Session) : Answer × Service :=
  (replied.1.answer,
    { service with session := replied.2, metrics := service.metrics.observe replied.1 })

theorem check_eq (service : Service) (r : RunRequest) :
    service.check r = service.passOn (service.grader.serve service.session (.check r)) := by
  rw [check, Grader.serve]
  cases service.grader.check service.session r with
  | mk reply session => cases reply <;> rfl

theorem submit_eq (service : Service) (stamp : Stamp) (r : SubmissionRequest) :
    service.submit stamp r =
      service.passOn (service.grader.serve service.session (.submit stamp r)) := by
  rw [submit, Grader.serve]
  cases service.grader.submit stamp service.session r with
  | mk reply session =>
    cases reply with
    | error e => rfl
    | ok response =>
      rw [passOn, Metrics.observe]
      rfl

/-! ### One request -/

theorem handle_of_route {route : Route String} (h : request.route? = some route) :
    service.handle stamp request = service.serve stamp request route := by
  obtain ⟨escaped, htarget, hroute⟩ := Option.bind_eq_some_iff.mp h
  rw [handle, htarget]
  dsimp only
  split at hroute
  · rename_i haccepts
    rw [if_pos haccepts, hroute]
  · simp at hroute

variable (service stamp) in
/-- Where nothing is asked for, it is said what is wrong with the path or the method. -/
theorem handle_of_no_route (h : request.route? = none) :
    ∃ answer, service.handle stamp request = (answer, service) ∧ answer.status ≠ 201 := by
  rw [Request.route?] at h
  rw [handle]
  cases htarget : Route.ofTarget? request.target with
  | none => exact ⟨.unknownPath, rfl, by decide⟩
  | some escaped =>
    rw [htarget, Option.bind_some] at h
    dsimp only
    by_cases haccepts : escaped.accepts request.method = true
    · rw [if_pos haccepts] at h ⊢
      rw [h]
      exact ⟨.badPath, rfl, by decide⟩
    · rw [if_neg haccepts]
      exact ⟨.wrongMethod, rfl, by decide⟩

/-- A body that cannot be read is answered by what is wrong with it. -/
theorem status_of_read_error {α : Type} {codec : Codec α} {answer : Answer}
    (h : request.read codec = .error answer) : answer.status ≠ 201 := by
  rw [Request.read] at h
  split at h
  · obtain rfl := Except.error.inj h
    decide
  · split at h
    · obtain rfl := Except.error.inj h
      decide
    · split at h
      · simp at h
      · obtain rfl := Except.error.inj h
        rename_i reason _
        cases reason <;> decide

theorem status_findSubmission (service : Service) (text : String) :
    (service.findSubmission text).status ≠ 201 := by
  rw [findSubmission]
  split
  · decide
  · split <;> simp [Answer.status]

theorem status_findLatest (service : Service) (attempt question : String) :
    (service.findLatest attempt question).status ≠ 201 := by
  rw [findLatest]
  split <;> simp [Answer.status]

/-- What handling a request can come to. -/
inductive Handled (service : Service) (stamp : Stamp) (request : Request) :
    Answer × Service → Prop where
  /-- An answer is given, and that is all. -/
  | answered {answer : Answer} (hcall : request.call? stamp = none)
    (hstatus : answer.status ≠ 201) :
    Handled service stamp request (answer, service)
  /-- A reply of the grader is passed on. -/
  | called {call : Call} (hcall : request.call? stamp = some call) :
    Handled service stamp request (service.passOn (service.grader.serve service.session call))

/-- A body is read, and what it says is asked of the grader. -/
theorem handled_of_read {α : Type} {codec : Codec α} {make : α → Call}
    {handled : Answer × Service}
    (hcall : request.call? stamp = (request.read codec).toOption.map make)
    (hok : ∀ r, request.read codec = .ok r →
      handled = service.passOn (service.grader.serve service.session (make r)))
    (herror : ∀ answer, request.read codec = .error answer → handled = (answer, service)) :
    service.Handled stamp request handled := by
  cases hread : request.read codec with
  | ok r =>
    rw [hread] at hcall
    rw [hok r hread]
    exact .called hcall
  | error answer =>
    rw [hread] at hcall
    rw [herror answer hread]
    exact .answered hcall (status_of_read_error hread)

variable (service stamp request) in
/-- **One request** comes to one of two things. -/
theorem handled_handle : service.Handled stamp request (service.handle stamp request) := by
  cases hroute : request.route? with
  | none =>
    obtain ⟨answer, hhandle, hstatus⟩ := handle_of_no_route service stamp hroute
    rw [hhandle]
    exact .answered (by rw [Request.call?, hroute]) hstatus
  | some route =>
    rw [handle_of_route hroute]
    cases route with
    | run =>
      have hcall : request.call? stamp = (request.read RunRequest.codec).toOption.map .check := by
        rw [Request.call?, hroute]
      refine handled_of_read hcall (fun r hread => ?_) fun answer hread => ?_
      · rw [serve, hread, ← check_eq]
      · rw [serve, hread]
    | submit =>
      have hcall : request.call? stamp =
          (request.read SubmissionRequest.codec).toOption.map (.submit stamp) := by
        rw [Request.call?, hroute]
      refine handled_of_read hcall (fun r hread => ?_) fun answer hread => ?_
      · rw [serve, hread, ← submit_eq]
      · rw [serve, hread]
    | submission text =>
      exact .answered (by rw [Request.call?, hroute]) (service.status_findSubmission text)
    | latest attempt question =>
      exact .answered (by rw [Request.call?, hroute]) (service.status_findLatest attempt question)
    | submissions | health | metrics =>
      exact .answered (by rw [Request.call?, hroute]) (by simp [Answer.status])

/-! ### Requests one after another -/

/-- Handles requests one after another, each with the stamp for a submission. -/
def handleAll (service : Service) : List (Stamp × Request) → List Answer × Service
  | [] => ([], service)
  | (stamp, request) :: requests =>
    let first := service.handle stamp request
    let rest := first.2.handleAll requests
    (first.1 :: rest.1, rest.2)

/-- The grader stays the same. -/
theorem Handled.grader {handled : Answer × Service} (h : service.Handled stamp request handled) :
    handled.2.grader = service.grader := by
  cases h <;> rfl

end Service

end Autograder
