import Autograder.Grading.Execution
import Autograder.Grading.SandboxConfig

/-!
# The sandbox

One guarded execution of a program on an input: nothing too large is run at all, a run that is not
done when its time is up is given up, and output is cut at a length.

What executes programs is a runner. It may answer, crash or never end, and the clock may run out
before an answer arrives; `Run` says which of these happens. A runner is asked with the number of
the runs that it was asked for before, so that it may behave differently every time; one that does
not look at that number is a function of program and input.
-/

namespace Autograder

/-- The most bytes of program text that are run. -/
def maxSourceBytes : Nat := 65536

/-- The most bytes of input that a program is run on. -/
def maxInputBytes : Nat := 1048576

/-- What a runner does with a program. -/
inductive Behaviour where
  | finishes (outcome : Guest.Outcome)
  | crashes
  | runsForever
deriving DecidableEq

/-- A run against the clock. -/
structure Run where
  behaviour : Behaviour
  /-- The time was up before the runner had answered or crashed. -/
  timerFirst : Bool
  /-- The time that had gone by at the end. -/
  elapsedMs : Nat
deriving DecidableEq

/-- What executes programs: the answer to the number of earlier runs, a program and an input. -/
abbrev Runner := Nat → String → String → Run

/-- The runner that interprets programs. -/
def interpreterRunner : Runner := fun _ code input =>
  ⟨.finishes (Guest.interpret none code input), false, 0⟩

/-- What stands behind output that was cut. -/
def truncationMarker : String := "\n... (output truncated)"

/-- Cuts output behind a number of characters. -/
def truncateOutput (output : String) (limit : Nat) : String :=
  if output.length ≤ limit then output
  else String.ofList (output.toList.take limit) ++ truncationMarker

/-- The report of a run that ended before its time was up. -/
def Run.report (config : SandboxConfig) (run : Run) : ExecutionResult :=
  let late := ExecutionResult.timedOut config.timeoutMs.toNat run.elapsedMs
  if run.timerFirst then late
  else match run.behaviour with
    | .runsForever => late
    | .crashes =>
      ExecutionResult.failed "" "Execution aborted: internal interpreter failure" run.elapsedMs
    | .finishes outcome =>
      let output := truncateOutput outcome.output config.maxOutputLength.toNat
      match outcome.error with
      | some error => ExecutionResult.failed output error run.elapsedMs
      | none =>
        if outcome.exitCode = 0 then ExecutionResult.completed output run.elapsedMs
        else
          ExecutionResult.failed output ("Exited with code " ++ toString outcome.exitCode)
            run.elapsedMs

/-- What the executions of a session amounted to. -/
structure Activity where
  /-- How many executions were asked for. -/
  executions : Nat
  /-- The programs and inputs that the runner was asked to run, latest first. -/
  invocations : List (String × String)
deriving DecidableEq

/-- Nothing yet. -/
def Activity.idle : Activity :=
  ⟨0, []⟩

/-- Why an execution is refused for its size, if it is. -/
def oversize? (code input : String) : Option String :=
  if maxSourceBytes < code.utf8ByteSize then
    some ("Source code exceeds maximum size of " ++ toString maxSourceBytes ++ " bytes")
  else if maxInputBytes < input.utf8ByteSize then
    some ("Input exceeds maximum size of " ++ toString maxInputBytes ++ " bytes")
  else none

/-- Executes a program on an input. -/
def executeGuarded (config : SandboxConfig) (runner : Runner) (activity : Activity)
    (code input : String) : ExecutionResult × Activity :=
  match oversize? code input with
  | some error =>
    (ExecutionResult.failed "" error 0, { activity with executions := activity.executions + 1 })
  | none =>
    ((runner activity.invocations.length code input).report config,
      ⟨activity.executions + 1, (code, input) :: activity.invocations⟩)

end Autograder
