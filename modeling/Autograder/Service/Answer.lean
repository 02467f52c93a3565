import Autograder.Codec.Report
import Autograder.Grading.Validation
import Autograder.Service.Metrics

/-!
# Answers

What the service answers to a request, and how an answer is written: its status, the media type of
its content and the content itself. The words of some answers are not the service's own: where a
request could not be taken apart they are the framework's, and the observations are put into words
by those who gather them. Such words are left open.
-/

namespace Autograder

/-- An answer of the service. -/
inductive Answer where
  | checked (response : RunResponse)
  | graded (response : SubmissionResponse)
  | submission (view : SubmissionView)
  | submissions (views : List SubmissionView)
  | healthy
  | metrics (observed : Metrics)
  /-- The grader refused the request as a whole. -/
  | gradingFailed (error : GradeError)
  /-- A text that should be the identifier of a submission is none. -/
  | badIdentifier
  | unknownSubmission (id : Uuid)
  /-- There is no submission of an attempt for a question. -/
  | noSubmission (attempt question : String)
  | unknownPath
  | wrongMethod
  /-- A parameter in the path is no text. -/
  | badPath
  /-- The body is not announced as a document. -/
  | unsupportedMedia
  | tooLarge
  /-- The body is no document of what was asked for. -/
  | badBody (reason : DecodeError)
deriving DecidableEq

namespace Answer

/-- The status code. -/
def status : Answer → Nat
  | checked _ | submission _ | submissions _ | healthy | metrics _ => 200
  | graded _ => 201
  | gradingFailed _ | badIdentifier | badPath | badBody .broken => 400
  | unknownSubmission _ | noSubmission .. | unknownPath => 404
  | wrongMethod => 405
  | tooLarge => 413
  | unsupportedMedia => 415
  | badBody .unfit => 422

/-- What an answer holds. -/
inductive Content where
  | nothing
  /-- Plain text, with its words where the service chooses them. -/
  | text (words : Option String)
  | document (j : Json)

/-- A document that says what is wrong. -/
def complaint (message : String) : Content :=
  .document (.ofMembers [("error", .ofString message)])

/-- The content. -/
def content : Answer → Content
  | checked response => .document (RunResponse.codec.encode response)
  | graded response => .document (SubmissionResponse.codec.encode response)
  | submission view => .document (SubmissionView.codec.encode view)
  | submissions views => .document (SubmissionView.codec.list.encode views)
  | healthy => .text (some "OK")
  | gradingFailed e => complaint e.message
  | badIdentifier => complaint "Invalid submission ID format"
  | unknownSubmission id => complaint ("Submission " ++ String.ofList id.text ++ " not found")
  | noSubmission attempt question =>
    complaint ("No submission for attempt " ++ attempt ++ " question " ++ question)
  | unknownPath | wrongMethod => .nothing
  | metrics _ | badPath | unsupportedMedia | tooLarge | badBody _ => .text none

/-- The media type of a content, empty for none. -/
def Content.mediaType : Content → String
  | nothing => ""
  | text _ => "text/plain"
  | document _ => "application/json"

/-- A content as it is sent, as far as the service chooses the words. -/
def Content.body : Content → String
  | nothing => ""
  | text words => words.getD ""
  | document j => String.ofList j.compact

end Answer

end Autograder
