import Autograder.Guest.Program

/-!
# Executions

How a single execution of a program ended, as it is reported.
-/

namespace Autograder

/-- How an execution ended. -/
inductive ExecutionStatus where
  | completed
  | error
  | timeout
deriving DecidableEq, Repr

/-- The name of a status. -/
def ExecutionStatus.name : ExecutionStatus → String
  | completed => "completed"
  | error => "error"
  | timeout => "timeout"

/-- The report of one execution. -/
structure ExecutionResult where
  success : Bool
  output : String
  error : Option String
  executionTimeMs : Nat
  status : ExecutionStatus
deriving DecidableEq

namespace ExecutionResult

/-- The program ran to its end. -/
def completed (output : String) (elapsedMs : Nat) : ExecutionResult :=
  ⟨true, output, none, elapsedMs, .completed⟩

/-- The program failed, or was never run. -/
def failed (output error : String) (elapsedMs : Nat) : ExecutionResult :=
  ⟨false, output, some error, elapsedMs, .error⟩

/-- The time was up. What the program had printed by then is not reported. -/
def timedOut (timeoutMs elapsedMs : Nat) : ExecutionResult :=
  ⟨false, "", some ("Time limit exceeded (" ++ toString timeoutMs ++ "ms)"), elapsedMs, .timeout⟩

end ExecutionResult

end Autograder
