import Autograder.Proofs.Grading.Aggregates
import Autograder.Proofs.Service.Calls
import Autograder.Proofs.Text.Identifiers

/-!
# The service as a record of submissions

What the service keeps, counts and shows, in terms of the submissions that it accepted. An accepted
submission is what is answered with the status 201, and nothing else is.

One request either leaves the submissions and their counters alone, or it posts a submission and
adds exactly that one; `Service.Records` says which, and what is known in either case. Over a row of
requests the store is then the store of the accepted submissions, so that what a lookup answers can
be read off their responses, whatever was asked in between.

## Main definitions

* `Answer.graded?` — the response of an accepted submission
* `SubmissionResponse.label`, `SubmissionView.Shows` — how it is counted and what is shown of it
* `Service.Records` — what one request leaves behind
* `Service.Serves` — what lookups answer

## Main results

* `Service.records_handle` — one request
* `Service.gains_handleAll` — what any requests add
* `Service.handleAll_faithful` — lookups and counters after any requests
-/

namespace Autograder

/-! ### Accepted submissions -/

/-- The response of an accepted submission. -/
def Answer.graded? : Answer → Option SubmissionResponse
  | graded response => some response
  | _ => none

theorem Answer.graded?_eq_none_iff {answer : Answer} :
    answer.graded? = none ↔ answer.status ≠ 201 := by
  cases answer with
  | badBody reason => cases reason <;> simp [graded?, status]
  | _ => simp [graded?, status]

/-- The label that an accepted submission is counted under, by what its response says. -/
def SubmissionResponse.label (response : SubmissionResponse) : SubmissionOutcome :=
  if response.rejected then .rejected
  else if response.validation.passed then .passed
  else if 0 < response.evaluation.passedCount then .partly
  else .failed

/-- The response answers what was posted, under the identifier of the stamp. -/
structure SubmissionResponse.Answers (response : SubmissionResponse) (stamp : Stamp)
    (posted : SubmissionRequest) : Prop where
  submissionId : response.submissionId = stamp.id
  attemptId : response.evaluation.attemptId = posted.attemptId
  questionId : response.evaluation.questionId = posted.questionId
  code : response.evaluation.code = posted.code
  language : Language.ofTag? posted.language = some response.evaluation.language

/-- What is said of a case once it was executed: whether it is passed, its status and the error. -/
structure Standing where
  passed : Bool
  status : ExecutionStatus
  error : Option String
deriving DecidableEq

def TestCaseResult.standing (r : TestCaseResult) : Standing :=
  ⟨r.passed, r.status, r.error⟩

def DisplayTestCaseResult.standing (r : DisplayTestCaseResult) : Standing :=
  ⟨r.passed, r.status, r.error⟩

/-- The view shows what the response said: the counts, the score, the program and, case by case,
how it stands. -/
structure SubmissionView.Shows (view : SubmissionView) (response : SubmissionResponse) : Prop where
  submissionId : view.submissionId = response.submissionId
  passedCount : view.passedCount = response.evaluation.passedCount
  failedCount : view.failedCount = response.evaluation.failedCount
  totalCount : view.totalCount = response.evaluation.totalCount
  finalScore : view.finalScore = response.evaluation.finalScore
  maxPossibleScore : view.maxPossibleScore = response.evaluation.maxPossibleScore
  code : view.code = response.evaluation.code
  language : view.language = response.evaluation.language
  cases : view.testCaseResults.map DisplayTestCaseResult.standing =
    response.evaluation.testCaseResults.map TestCaseResult.standing

/-- The submission was made for this attempt and question. -/
abbrev SubmissionResponse.IsFor (response : SubmissionResponse) (attempt question : String) :
    Prop :=
  response.evaluation.attemptId = attempt ∧ response.evaluation.questionId = question

/-- What is shown of an accepted submission. -/
def SubmissionResponse.view (response : SubmissionResponse) : SubmissionView :=
  response.submission.view

theorem SubmissionResponse.view_shows (response : SubmissionResponse) :
    response.view.Shows response where
  submissionId := rfl
  passedCount := rfl
  failedCount := rfl
  totalCount := rfl
  finalScore := rfl
  maxPossibleScore := rfl
  code := rfl
  language := rfl
  cases := by
    change (displayResults response.evaluation.testCaseResults []).map _ = _
    rw [displayResults, List.map_map]
    rfl

/-! ### One request -/

/-- What was posted, of a request that comes to a submission. -/
theorem Request.call?_eq_submit {request : Request} {stamp given : Stamp}
    {posted : SubmissionRequest} (h : request.call? stamp = some (.submit given posted)) :
    given = stamp ∧ request.route? = some .submit ∧
      request.read SubmissionRequest.codec = .ok posted := by
  rw [call?] at h
  split at h
  · cases hread : request.read RunRequest.codec <;> simp [hread, Except.toOption] at h
  · rename_i hroute
    cases hread : request.read SubmissionRequest.codec with
    | error answer => simp [hread, Except.toOption] at h
    | ok r =>
      obtain ⟨rfl, rfl⟩ : stamp = given ∧ r = posted := by simpa [hread, Except.toOption] using h
      exact ⟨rfl, hroute, rfl⟩
  · simp at h

/-- A submission is posted. -/
theorem Request.method_of_route? {request : Request} (h : request.route? = some .submit) :
    request.method = "POST" := by
  obtain ⟨route, htarget, hroute⟩ := Option.bind_eq_some_iff.mp h
  split at hroute
  · rename_i haccepts
    cases route with
    | submit => simpa [Route.accepts] using haccepts
    | submission | submissions =>
      obtain ⟨_, _, h⟩ := Option.map_eq_some_iff.mp hroute
      simp at h
    | latest attempt question =>
      rw [Route.decode?] at hroute
      split at hroute <;> simp at hroute
    | run | health | metrics => simp [Route.decode?] at hroute
  · simp at hroute

/-- All cases of a submission are passed, by the summary, if there are cases and as many of them
passed. -/
theorem Graded.Consistent.passed_iff_count {cases : List TestCase} {g : Graded}
    (h : g.Consistent cases) :
    g.summary.passed = true ↔ 0 < cases.length ∧ g.summary.passedCount = cases.length := by
  rw [h.passed, List.length_pos_iff, h.passedCount, ← h.length, List.countP_eq_length]

/-- The outcome by the counts is the one by the summary. -/
theorem Graded.Consistent.ofCounts_eq {cases : List TestCase} {g : Graded}
    (h : g.Consistent cases) :
    SubmissionOutcome.ofCounts g.summary.passedCount cases.length g.rejected =
      if g.rejected then .rejected
      else if g.summary.passed then .passed
      else if 0 < g.summary.passedCount then .partly
      else .failed := by
  rw [SubmissionOutcome.ofCounts]
  simp only [Bool.and_eq_true, decide_eq_true_eq, h.passed_iff_count]

/-- The grader's responses are counted under their label. -/
theorem Grader.outcome_response (grader : Grader) (activity : Activity)
    (request : SubmissionRequest) (language : Language) (stamp : Stamp) :
    (response request language (grader.judge activity request).1 stamp).outcome =
      (response request language (grader.judge activity request).1 stamp).label :=
  (grader.judge_consistent activity request).1.ofCounts_eq

/-! ### Counters of submissions -/

namespace Metrics

variable (m : Metrics)

theorem submissions_observeCases (results : List TestCaseResult) :
    (m.observeCases results).submissions = m.submissions := by
  induction results generalizing m with
  | nil => rfl
  | cons r results ih => exact ih (m.observeExecution r.status r.executionTimeMs)

theorem submissions_observe_checked (reply : Except GradeError RunResponse) :
    (m.observe (.checked reply)).submissions = m.submissions := by
  cases reply <;> rfl

/-- An accepted submission is counted, whether or not its program was refused. -/
theorem submissions_observe_submitted (response : SubmissionResponse) :
    (m.observe (.submitted (.ok response))).submissions =
      m.submissions.increment response.outcome := by
  rw [observe]
  split
  · rfl
  · exact submissions_observeCases _ _

end Metrics

namespace Service

/-- What one request leaves behind. -/
inductive Records (service : Service) (stamp : Stamp) (request : Request) :
    Answer × Service → Prop where
  /-- No submission is accepted, and none is added or counted. -/
  | nothing {answer : Answer} {after : Service} (status : answer.status ≠ 201)
    (store : after.session.store = service.session.store)
    (counters : after.metrics.submissions = service.metrics.submissions) :
    Records service stamp request (answer, after)
  /-- What was posted is accepted, added and counted under its label. -/
  | submission {response : SubmissionResponse} {posted : SubmissionRequest} {after : Service}
    (method : request.method = "POST") (route : request.route? = some .submit)
    (read : request.read SubmissionRequest.codec = .ok posted)
    (answers : response.Answers stamp posted)
    (store : after.session.store = service.session.store.record response.submission)
    (counters : ∀ outcome, after.metrics.submissions.count outcome =
      service.metrics.submissions.count outcome + if response.label = outcome then 1 else 0) :
    Records service stamp request (.graded response, after)

variable {service : Service} {stamp : Stamp} {request : Request}

/-- A checked program is no submission. -/
theorem records_check (r : RunRequest) :
    service.Records stamp request
      (service.passOn (service.grader.serve service.session (.check r))) := by
  have hstore := service.grader.store_serve service.session (.check r)
  rw [Grader.serve] at hstore ⊢
  generalize service.grader.check service.session r = checked at hstore ⊢
  obtain ⟨reply, session⟩ := checked
  refine .nothing ?_ hstore (Metrics.submissions_observe_checked _ _)
  cases reply <;> simp [Reply.answer, Answer.status]

/-- What is posted is accepted if its language is supported. -/
theorem records_submit {posted : SubmissionRequest} (hroute : request.route? = some .submit)
    (hread : request.read SubmissionRequest.codec = .ok posted) :
    service.Records stamp request
      (service.passOn (service.grader.serve service.session (.submit stamp posted))) := by
  cases hsupported : Language.ofTag? posted.language with
  | none =>
    have hfailed : service.grader.serve service.session (.submit stamp posted) =
        (.submitted (.error (.unsupportedLanguage posted.language)), service.session) :=
      Grader.serve_of_unsupported hsupported
    rw [hfailed]
    exact .nothing (by simp [Reply.answer, Answer.status]) rfl rfl
  | some supported =>
    have hlanguage : Grader.language posted.language = .ok supported := by
      rw [Grader.language, hsupported]
    have hmethod := Request.method_of_route? hroute
    rw [Grader.serve, Grader.submit_eq_ok service.grader stamp service.session hlanguage]
    refine .submission hmethod hroute hread ⟨rfl, rfl, rfl, rfl, hsupported⟩ rfl fun outcome => ?_
    dsimp only
    rw [Metrics.submissions_observe_submitted, Tallies.count_increment, Grader.outcome_response]

theorem Handled.records {handled : Answer × Service} (h : service.Handled stamp request handled) :
    service.Records stamp request handled := by
  cases h with
  | answered _ hstatus => exact .nothing hstatus rfl rfl
  | @called call hcall =>
    cases call with
    | check r => exact records_check r
    | submit given posted =>
      obtain ⟨rfl, hroute, hread⟩ := Request.call?_eq_submit hcall
      exact records_submit hroute hread

variable (service stamp request) in
/-- **One request** adds what it posts, or nothing. -/
theorem records_handle : service.Records stamp request (service.handle stamp request) :=
  (service.handled_handle stamp request).records

/-! ### Any requests -/

/-- What was gained between two states of a service are these submissions, the earliest first. -/
structure Gains (service : Service) (responses : List SubmissionResponse) (after : Service) :
    Prop where
  store : after.session.store =
    (responses.map SubmissionResponse.submission).foldl Store.record service.session.store
  counters : ∀ outcome, after.metrics.submissions.count outcome =
    service.metrics.submissions.count outcome + responses.countP (·.label = outcome)

theorem Gains.trans {after later : Service} {responses responses' : List SubmissionResponse}
    (h : service.Gains responses after) (h' : after.Gains responses' later) :
    service.Gains (responses ++ responses') later where
  store := by rw [h'.store, h.store, List.map_append, List.foldl_append]
  counters outcome := by
    rw [h'.counters, h.counters, List.countP_append, Nat.add_assoc]

theorem Records.gains {handled : Answer × Service} (h : service.Records stamp request handled) :
    service.Gains handled.1.graded?.toList handled.2 := by
  cases h with
  | nothing status store counters =>
    rw [Answer.graded?_eq_none_iff.mpr status]
    exact ⟨store, fun outcome => by rw [counters]; rfl⟩
  | @submission response _ _ _ _ _ _ store counters =>
    refine ⟨store, fun outcome => ?_⟩
    rw [counters, Answer.graded?, Option.toList_some, List.countP_singleton]
    simp only [decide_eq_true_eq]

variable (service) in
/-- **Any requests** add the submissions that are accepted among them. -/
theorem gains_handleAll (requests : List (Stamp × Request)) :
    service.Gains ((service.handleAll requests).1.filterMap Answer.graded?)
      (service.handleAll requests).2 := by
  induction requests generalizing service with
  | nil => exact ⟨rfl, fun _ => rfl⟩
  | cons request requests ih =>
    obtain ⟨stamp, request⟩ := request
    have hfirst := (service.records_handle stamp request).gains
    have hall := hfirst.trans (ih (service.handle stamp request).2)
    rw [handleAll, ← List.singleton_append, List.filterMap_append]
    cases hgraded : (service.handle stamp request).1.graded? <;> simpa [hgraded] using hall

/-! ### Lookups -/

/-- What a service that has accepted the submissions of these responses, the earliest first, does
with one more request. -/
structure Faithful (service : Service) (responses : List SubmissionResponse) : Prop where
  records : ∀ stamp request, service.Records stamp request (service.handle stamp request)
  /-- A record under a new identifier is one submission more, and nothing else. -/
  adds : ∀ response : SubmissionResponse,
    response.submissionId ∉ responses.map SubmissionResponse.submissionId →
      service.session.store.Adds response.submission
        (service.session.store.record response.submission)
  counters : ∀ outcome,
    service.metrics.submissions.count outcome = responses.countP (·.label = outcome)
  /-- What is shown of an accepted submission is what its response said. -/
  shows : ∀ response ∈ responses,
    (Answer.submission response.view).status = 200 ∧ response.view.Shows response
  /-- However the identifier is spelled. -/
  byId : ∀ stamp request text, ∀ response ∈ responses,
    request.route? = some (.submission text) →
    Uuid.ofText? text.toList = some response.submissionId →
      service.handle stamp request = (.submission response.view, service)
  /-- With the identifier in the path as the response writes it. -/
  byPath : ∀ stamp request, ∀ response ∈ responses, request.method = "GET" →
    request.target = "/submissions/" ++ String.ofList response.submissionId.text →
      service.handle stamp request = (.submission response.view, service)
  latest : ∀ stamp request attempt question response,
    request.route? = some (.latest attempt question) →
    (responses.filter (·.IsFor attempt question)).getLast? = some response →
      service.handle stamp request = (.submission response.view, service)
  noLatest : ∀ stamp request attempt question, request.route? = some (.latest attempt question) →
    ((service.handle stamp request).1.status = 404 ↔
      ∀ response ∈ responses, ¬ response.IsFor attempt question)
  /-- A listing is a part of the history. -/
  listing : ∀ stamp request attempt, request.route? = some (.submissions attempt) →
    service.handle stamp request =
      (.submissions ((responses.filter (·.evaluation.attemptId = attempt)).map
        SubmissionResponse.view), service)

section Lookups

variable {responses : List SubmissionResponse}

theorem find_of_route {text : String} {response : SubmissionResponse}
    (hfound : service.session.store.get? response.submission.id = some response.submission)
    (hroute : request.route? = some (.submission text))
    (htext : Uuid.ofText? text.toList = some response.submissionId) :
    service.handle stamp request = (.submission response.view, service) := by
  rw [handle_of_route hroute, serve, findSubmission, htext]
  dsimp only
  rw [show service.session.store.get? response.submissionId = some response.submission from hfound]
  rfl

/-- The identifier of a submission in a path is looked up. -/
theorem route?_of_path {id : Uuid} (hmethod : request.method = "GET")
    (htarget : request.target = "/submissions/" ++ String.ofList id.text) :
    request.route? = some (.submission (String.ofList id.text)) := by
  rw [Request.route?, htarget, Route.ofTarget?_submission, Option.bind_some, hmethod,
    Route.decode?_submission]
  rfl

/-- The last submission of a pair, by the history. -/
theorem latest?_eq_of_keeps
    (h : service.session.store.Keeps (responses.map SubmissionResponse.submission))
    (attempt question : String) :
    service.session.store.latest? attempt question =
      ((responses.filter (·.IsFor attempt question)).getLast?).map
        SubmissionResponse.submission := by
  rw [h.latest, List.filter_map, List.getLast?_map]
  rfl

theorem faithful_of_gains {grader : Grader} (h : (start grader).Gains responses service)
    (hids : (responses.map SubmissionResponse.submissionId).Nodup) :
    service.Faithful responses := by
  have hindexes := Store.indexes_ofHistory (responses.map SubmissionResponse.submission)
  have hstore : service.session.store =
      Store.ofHistory (responses.map SubmissionResponse.submission) := h.store
  rw [← hstore] at hindexes
  have hmap : (responses.map SubmissionResponse.submission).map Submission.id =
      responses.map SubmissionResponse.submissionId := by
    rw [List.map_map]
    rfl
  have hkeeps := hindexes.keeps (by rwa [hmap])
  have hget : ∀ response ∈ responses,
      service.session.store.get? response.submission.id = some response.submission :=
    fun response hr => hkeeps.get _ (List.mem_map_of_mem hr)
  exact {
    records := service.records_handle
    adds := fun response hnew => hindexes.adds_record (by
      rw [← hmap] at hnew
      exact Option.not_isSome_iff_eq_none.mp (mt (hindexes.isSome_get?_iff _).mp hnew))
    counters := fun outcome => by
      rw [h.counters]
      exact Nat.zero_add _
    shows := fun response _ => ⟨rfl, response.view_shows⟩
    byId := fun stamp request text response hr => find_of_route (hget response hr)
    byPath := fun stamp request response hr hmethod htarget =>
      find_of_route (hget response hr) (route?_of_path hmethod htarget) (by
        rw [String.toList_ofList, Uuid.ofText?_text])
    latest := fun stamp request attempt question response hroute hlast => by
      rw [handle_of_route hroute, serve, findLatest, latest?_eq_of_keeps hkeeps, hlast]
      rfl
    noLatest := fun stamp request attempt question hroute => by
      rw [handle_of_route hroute, serve, findLatest, latest?_eq_of_keeps hkeeps,
        ← getLast?_filter_eq_none_iff]
      cases (responses.filter (·.IsFor attempt question)).getLast? <;> simp [Answer.status]
    listing := fun stamp request attempt hroute => by
      rw [handle_of_route hroute, serve, hkeeps.forAttempt, List.filter_map, List.map_map]
      rfl }

end Lookups

/-- **The service is a faithful record of submissions.** Whatever is asked of a new service, what it
does next can be read off the responses of the submissions that it accepted, provided that each was
given an identifier of its own. -/
theorem handleAll_faithful (grader : Grader) (requests : List (Stamp × Request))
    (hids : (((start grader).handleAll requests).1.filterMap Answer.graded? |>.map
      SubmissionResponse.submissionId).Nodup) :
    ((start grader).handleAll requests).2.Faithful
      (((start grader).handleAll requests).1.filterMap Answer.graded?) :=
  faithful_of_gains ((start grader).gains_handleAll requests) hids

/-- Posts a submission of a program with the given cases. -/
def posts (code cases : String) : Request where
  method := "POST"
  target := "/submit"
  contentType := some "application/json"
  body := "\x7b\"attempt_id\":\"a\",\"question_id\":\"q\",\"language\":\"python\",\"code\":\"" ++
    code ++ "\",\"test_cases\":" ++ cases ++ ",\"max_points\":1\x7d"

/-- One case, which expects the output `1`. -/
def oneCase : String :=
  "[\x7b\"id\":1,\"input\":\"\",\"expected_output\":\"1\"\x7d]"

/-- Looks something up. -/
def gets (target : String) : Request where
  method := "GET"
  target
  contentType := none
  body := ""

/-- Two tries at one question, the first with a program that is refused, and a lookup between
them. -/
def sampleRequests : List (Stamp × Request) :=
  [(⟨⟨1⟩, ⟨0, 0⟩, ⟨0, 0⟩⟩, posts "import os" "[]"),
    (⟨⟨2⟩, ⟨0, 0⟩, ⟨0, 0⟩⟩, gets "/attempts/a/submissions"),
    (⟨⟨2⟩, ⟨0, 0⟩, ⟨0, 0⟩⟩, posts "print(1)" oneCase)]

/-- Of these requests the service accepts two. -/
theorem faithful_sampleRequests :
    let handled := (start ⟨{}, interpreterRunner⟩).handleAll sampleRequests
    (handled.1.filterMap Answer.graded?).map (fun r => (r.submissionId, r.label)) =
        [(⟨1⟩, .rejected), (⟨2⟩, .passed)] ∧
      handled.2.Faithful (handled.1.filterMap Answer.graded?) := by
  have hlabels : (((start ⟨{}, interpreterRunner⟩).handleAll sampleRequests).1.filterMap
      Answer.graded?).map (fun r => (r.submissionId, r.label)) =
        [(⟨1⟩, .rejected), (⟨2⟩, .passed)] := by
    decide +kernel
  have hids := congrArg (List.map Prod.fst) hlabels
  rw [List.map_map] at hids
  exact ⟨hlabels, handleAll_faithful _ _ (hids.symm ▸ by decide)⟩

end Service

end Autograder
