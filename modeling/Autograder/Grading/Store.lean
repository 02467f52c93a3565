import Autograder.Grading.Submission
import Autograder.Table

/-!
# The store of submissions

Every submission is kept by its identifier. Beside that the store knows, for each attempt and
question, which submission came last, and for each attempt which came, in order. These two hold
identifiers only; what they lead to is looked up.
-/

namespace Autograder

/-- The submissions of a grader. -/
structure Store where
  byId : Table Uuid Submission
  latestId : Table (String × String) Uuid
  /-- The identifiers of an attempt, the earliest first. -/
  idsOf : Table String (List Uuid)
deriving DecidableEq

namespace Store

/-- No submissions. -/
def empty : Store :=
  ⟨.empty, .empty, .empty⟩

/-- Keeps a submission and makes it the latest of its attempt and question. -/
def record (store : Store) (s : Submission) : Store where
  byId := store.byId.insert s.id s
  latestId := store.latestId.insert (s.attemptId, s.questionId) s.id
  idsOf := store.idsOf.insert s.attemptId ((store.idsOf.get? s.attemptId).getD [] ++ [s.id])

/-- The submission with an identifier. -/
def get? (store : Store) (id : Uuid) : Option Submission :=
  store.byId.get? id

/-- The latest submission of an attempt for a question. -/
def latest? (store : Store) (attempt question : String) : Option Submission :=
  (store.latestId.get? (attempt, question)).bind store.get?

/-- The submissions of an attempt, the earliest first. -/
def forAttempt (store : Store) (attempt : String) : List Submission :=
  ((store.idsOf.get? attempt).getD []).filterMap store.get?

/-- How many submissions are kept. -/
def size (store : Store) : Nat :=
  store.byId.size

end Store

end Autograder
