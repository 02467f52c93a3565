import Autograder.Codec.Grading
import Autograder.Table

/-!
# Shared results

Graded submissions can be shared with other services through a store of texts by key. One key leads
to a submission, another to the latest submission of an attempt for a question; what they lead to
is the compact document of the submission. That the store drops a text after some time is left
out: it is described as it is until then.
-/

namespace Autograder.ResultCache

/-- The key of a submission. -/
def submissionKey (id : Uuid) : String :=
  "codegrade:submission:" ++ String.ofList id.text

theorem toList_submissionKey (id : Uuid) :
    (submissionKey id).toList = "codegrade:submission:".toList ++ id.text := by
  unfold submissionKey
  rw [String.toList_append]
  exact congrArg _ String.toList_ofList

/-- The key of the latest submission of an attempt for a question. -/
def latestKey (attempt question : String) : String :=
  "codegrade:latest:" ++ attempt ++ ":" ++ question

theorem toList_latestKey (attempt question : String) :
    (latestKey attempt question).toList
      = "codegrade:latest:".toList ++ (attempt.toList ++ ':' :: question.toList) := by
  unfold latestKey
  simp only [String.toList_append, List.append_assoc]
  rfl

/-- What is kept of a submission. -/
def payload (s : Submission) : String :=
  String.ofList (Submission.codec.encode s).compact

/-- Shares a submission under its own key, and as the latest of its attempt for its question. -/
def share (texts : Table String String) (s : Submission) : Table String String :=
  (texts.insert (submissionKey s.id) (payload s)).insert (latestKey s.attemptId s.questionId)
    (payload s)

/-- The latest submission of an attempt for a question, as it is read from what is kept. -/
def latest? (texts : Table String String) (attempt question : String) :
    Option (Except DecodeError Submission) :=
  (texts.get? (latestKey attempt question)).map fun text => Submission.codec.read text.toList

end Autograder.ResultCache
