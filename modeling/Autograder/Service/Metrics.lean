import Autograder.Grading.Submission
import Autograder.Table

/-!
# Metrics

What the service observes: submissions by their outcome, executed cases by their status, and the
times that executions took. How the times fall into buckets, and the text in which all of this is
published, are not the service's own, and are left out.
-/

namespace Autograder

/-- How often each of several things was counted. -/
abbrev Tallies (κ : Type) := Table κ Nat

namespace Tallies

variable {κ : Type} [DecidableEq κ]

/-- How often something was counted. -/
def count (t : Tallies κ) (key : κ) : Nat :=
  (t.get? key).getD 0

/-- Counts something once more. -/
def increment (t : Tallies κ) (key : κ) : Tallies κ :=
  t.insert key (t.count key + 1)

theorem count_increment (t : Tallies κ) (key key' : κ) :
    (t.increment key).count key' = t.count key' + if key = key' then 1 else 0 := by
  simp only [count, increment, Table.get?_insert]
  split <;> simp_all

end Tallies

/-- How a submission came out. -/
inductive SubmissionOutcome where
  | passed
  /-- Some cases were passed. -/
  | partly
  | failed
  /-- The program was refused. -/
  | rejected
deriving DecidableEq, Repr

namespace SubmissionOutcome

/-- The name of an outcome. -/
def name : SubmissionOutcome → String
  | passed => "passed"
  | partly => "partial"
  | failed => "failed"
  | rejected => "rejected"

/-- All outcomes, in the order of their names. -/
def all : List SubmissionOutcome :=
  [failed, partly, passed, rejected]

/-- The outcome of a submission with so many cases passed. -/
def ofCounts (passed total : Nat) (rejected : Bool) : SubmissionOutcome :=
  if rejected then .rejected
  else if 0 < total && passed = total then .passed
  else if 0 < passed then .partly
  else .failed

end SubmissionOutcome

/-- All statuses, in the order of their names. -/
def ExecutionStatus.all : List ExecutionStatus :=
  [completed, error, timeout]

/-- What the service has observed. -/
structure Metrics where
  submissions : Tallies SubmissionOutcome
  cases : Tallies ExecutionStatus
  /-- The times of the executions, the last one first. -/
  seconds : List Float
deriving DecidableEq

namespace Metrics

/-- Nothing has been observed. -/
def empty : Metrics :=
  ⟨.empty, .empty, []⟩

/-- How many executions were observed. -/
def executions (m : Metrics) : Nat :=
  m.seconds.length

/-- Counts a submission. -/
def observeSubmission (m : Metrics) (outcome : SubmissionOutcome) : Metrics :=
  { m with submissions := m.submissions.increment outcome }

/-- Counts an execution. -/
def observeExecution (m : Metrics) (status : ExecutionStatus) (timeMs : Nat) : Metrics :=
  { m with
    cases := m.cases.increment status
    seconds := Float.ofNat timeMs / 1000 :: m.seconds }

/-- Counts the executions of a submission's cases. -/
def observeCases (m : Metrics) (results : List TestCaseResult) : Metrics :=
  results.foldl (fun m r => m.observeExecution r.status r.executionTimeMs) m

end Metrics

end Autograder
