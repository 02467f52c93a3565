import Autograder.Grading.Grader
import Autograder.Service.Answer
import Autograder.Service.MediaType
import Autograder.Service.Metrics
import Autograder.Service.Route

/-!
# The grading service

The service as a machine that takes requests one after the other. It holds a grader, the session
with the submissions so far, and the counters.

Of several things that are wrong with a request the first in this order is answered: the path, the
method, the parameters in the path, the media type of the body, its size, its form, and what the
grader refuses.
-/

namespace Autograder

/-- A request. -/
structure Request where
  method : String
  /-- The path, with perhaps a query behind it. -/
  target : String
  contentType : Option String
  body : String
deriving DecidableEq

/-- Everything but the content is asked for. -/
def Request.wantsHeadOnly (request : Request) : Bool :=
  request.method == "HEAD"

/-- What is sent for an answer to a request, as far as the service chooses the words. -/
def Request.sent (request : Request) (answer : Answer) : String :=
  if request.wantsHeadOnly then "" else answer.content.body

/-- The state of the service. -/
structure Service where
  grader : Grader
  session : Session
  metrics : Metrics

/-- The most bytes of a body. -/
def maxBodyBytes : Nat := 2097152

/-- What a body says. Whatever follows the document in it is not looked at. -/
def Request.read (request : Request) (codec : Codec α) : Except Answer α :=
  let media := request.contentType.bind fun text => MediaType.ofText? text.toList
  if !media.any MediaType.isDocument then .error .unsupportedMedia
  else if maxBodyBytes < request.body.utf8ByteSize then .error .tooLarge
  else match codec.readFirst request.body.toList with
    | .ok (a, _) => .ok a
    | .error reason => .error (.badBody reason)

namespace Service

/-- A service without requests. -/
def start (grader : Grader) : Service :=
  ⟨grader, .empty, .empty⟩

/-- Checks a program on one sample. -/
def check (service : Service) (request : RunRequest) : Answer × Service :=
  match service.grader.check service.session request with
  | (.ok response, session) =>
    let metrics :=
      service.metrics.observeExecution response.result.status response.result.executionTimeMs
    (.checked response, { service with session, metrics })
  | (.error e, session) => (.gradingFailed e, { service with session })

/-- Grades a submission. -/
def submit (service : Service) (stamp : Stamp) (request : SubmissionRequest) : Answer × Service :=
  match service.grader.submit stamp service.session request with
  | (.ok response, session) =>
    let evaluation := response.evaluation
    let outcome :=
      SubmissionOutcome.ofCounts evaluation.passedCount evaluation.totalCount response.rejected
    let counted := service.metrics.observeSubmission outcome
    let metrics :=
      if response.rejected then counted else counted.observeCases evaluation.testCaseResults
    (.graded response, { service with session, metrics })
  | (.error e, session) => (.gradingFailed e, { service with session })

/-- The submission whose identifier a text spells. -/
def findSubmission (service : Service) (text : String) : Answer :=
  match Uuid.ofText? text.toList with
  | none => .badIdentifier
  | some id =>
    match service.session.store.get? id with
    | some s => .submission s.view
    | none => .unknownSubmission id

/-- The latest submission of an attempt for a question. -/
def findLatest (service : Service) (attempt question : String) : Answer :=
  match service.session.store.latest? attempt question with
  | some s => .submission s.view
  | none => .noSubmission attempt question

/-- The answer to a request for a route. -/
def serve (service : Service) (stamp : Stamp) (request : Request) :
    Route String → Answer × Service
  | .run =>
    match request.read RunRequest.codec with
    | .ok r => service.check r
    | .error answer => (answer, service)
  | .submit =>
    match request.read SubmissionRequest.codec with
    | .ok r => service.submit stamp r
    | .error answer => (answer, service)
  | .submission id => (service.findSubmission id, service)
  | .latest attempt question => (service.findLatest attempt question, service)
  | .submissions attempt =>
    (.submissions ((service.session.store.forAttempt attempt).map Submission.view), service)
  | .health => (.healthy, service)
  | .metrics => (.metrics service.metrics, service)

/-- The answer to a request. The stamp is for a submission, should it be one. -/
def handle (service : Service) (stamp : Stamp) (request : Request) : Answer × Service :=
  match Route.ofTarget? request.target with
  | none => (.unknownPath, service)
  | some route =>
    if route.accepts request.method then
      match route.decode? with
      | some route => service.serve stamp request route
      | none => (.badPath, service)
    else (.wrongMethod, service)

end Service

end Autograder
