import Autograder.CommandLine.Invocation
import Autograder.Codec.Report
import Autograder.Grading.CaseList
import Autograder.Grading.Grader

/-!
# Plans

A plan is an invocation with everything that it names looked up: the limits, the program, the texts
and the test cases. Making a plan can fail, and of several things that are wrong the first in the
order of looking up is told. Carrying a plan out prints something and ends with a code.
-/

namespace Autograder.CommandLine

/-- What stands at each path. -/
abbrev Files := String → FileState

/-- Why a command fails. -/
inductive CommandError where
  | unreadable (path : String)
  | config (error : LoadError)
  | zeroTimeout
  | badPoints
  /-- The text at a path is no list of test cases. -/
  | badCases (path : String) (error : CaseListError)
  /-- The check of a program found a reason to refuse it. -/
  | refused (refusal : Refusal)
  | grading (error : GradeError)
deriving DecidableEq

/-- What is said about a failure. -/
def CommandError.message : CommandError → String
  | unreadable path => "Failed to read " ++ path
  | config error => error.message
  | zeroTimeout => "--timeout-ms must be greater than zero"
  | badPoints => "--max-points must be a non-negative number"
  | badCases path _ => "Invalid test case file " ++ path
  | refused refusal => (GradeError.validation refusal).message
  | grading error => error.message

/-- A command with everything looked up. -/
inductive Plan where
  | check (path code : String) (config : SandboxConfig)
  | run (config : SandboxConfig) (request : RunRequest)
  | grade (config : SandboxConfig) (request : SubmissionRequest)

/-- The text of a file. -/
def readText (files : Files) (path : String) : Except CommandError String :=
  match files path with
  | .text content => .ok content
  | _ => .error (.unreadable path)

/-- The text of a file, if one is named. -/
def readOptional (files : Files) : Option String → Except CommandError String
  | none => .ok ""
  | some path => readText files path

/-- The limits that the configuration at a path sets. -/
def readLimits (files : Files) (env : Environment) (path : String) :
    Except CommandError SandboxConfig :=
  match ServiceConfig.load (files path) path env with
  | .ok config => .ok config.sandbox
  | .error e => .error (.config e)

/-- The test cases in a file. -/
def readCaseFile (files : Files) (path : String) : Except CommandError (List TestCase) := do
  let text ← readText files path
  match readCases text with
  | .ok cases => return cases
  | .error e => throw (.badCases path e)

/-- The limits with a given time. -/
def withTimeout (config : SandboxConfig) : Option UInt64 → Except CommandError SandboxConfig
  | none => .ok config
  | some ms => if ms = 0 then .error .zeroTimeout else .ok { config with timeoutMs := ms }

/-- Looks everything up that an invocation names. -/
def Invocation.plan (files : Files) (env : Environment) (i : Invocation) :
    Except CommandError Plan :=
  match i.command with
  | .check path => do
    let code ← readText files path
    let config ← readLimits files env i.configPath
    return .check path code config
  | .run path input expected timeoutMs => do
    let limits ← readLimits files env i.configPath
    let config ← withTimeout limits timeoutMs
    let code ← readText files path
    let input ← readOptional files input
    let expectedOutput ← readOptional files expected
    return .run config ⟨code, Language.python.tag, input, expectedOutput, some config⟩
  | .grade path tests maxPoints attempt question => do
    if !maxPoints.isFinite || maxPoints < 0 then throw .badPoints
    let config ← readLimits files env i.configPath
    let cases ← readCaseFile files tests
    let code ← readText files path
    return .grade config
      ⟨attempt, question, code, Language.python.tag, cases, maxPoints, none⟩

/-- What a command prints, and the code that it ends with. -/
structure Printed where
  output : String
  errors : String
  exitCode : UInt8
deriving DecidableEq

/-- What is printed about a failure, behind what was printed before it. -/
def CommandError.printed (e : CommandError) (output : String) : Printed :=
  ⟨output, "Error: " ++ e.message ++ "\n", 1⟩

/-- How the program is used. -/
def usage : String :=
  "Usage: autograder [--config <CONFIG>] <COMMAND>\n\n" ++
  "Commands:\n" ++
  "  check --code <CODE>\n" ++
  "  run   --code <CODE> [--input <INPUT>] [--expected <EXPECTED>] [--timeout-ms <TIMEOUT_MS>]\n" ++
  "  grade --code <CODE> --tests <TESTS> --max-points <MAX_POINTS>\n" ++
  "        [--attempt <ATTEMPT>] [--question <QUESTION>]\n" ++
  "  help  [COMMAND]\n"

/-- What is printed when the arguments are not read to their end. -/
def Interruption.printed : Interruption → Printed
  | help => ⟨usage, "", 0⟩
  | misuse => ⟨"", usage, 2⟩

/-- A document as it is printed. -/
def document (j : Json) : String :=
  String.ofList j.pretty ++ "\n"

/-- The line about the score of a submission. -/
def scoreLine (report : GradeReport) : String :=
  "\n📊 Score: " ++ Decimal.plain report.finalScore ++ " / "
    ++ Decimal.plain report.maxPossibleScore ++ " (" ++ toString report.passedCount ++ "/"
    ++ toString report.totalCount ++ " passed)\n"

/-- Carries a plan out. -/
def Plan.perform (runner : Runner) (stamp : Stamp) : Plan → Printed
  | .check path code config =>
    let heading := "🔍 Checking " ++ path ++ "\n"
    match validate config code with
    | none => ⟨heading ++ "✅ Code passed validation\n", "", 0⟩
    | some refusal =>
      (CommandError.refused refusal).printed (heading ++ "❌ " ++ refusal.message ++ "\n")
  | .run config request =>
    match (Grader.check ⟨config, runner⟩ .empty request).1 with
    | .ok response => ⟨document (RunResponse.codec.encode response), "", 0⟩
    | .error e => (CommandError.grading e).printed ""
  | .grade config request =>
    match (Grader.submit ⟨config, runner⟩ stamp .empty request).1 with
    | .ok response =>
      let report := response.report request.testCases
      ⟨document (GradeReport.codec.encode report), scoreLine report ++ report.message ++ "\n", 0⟩
    | .error e => (CommandError.grading e).printed ""

/-- The programs that a plan executes, with their inputs, in order. Whether a program is executed
does not hang on how the executions before it end, so a runner that never answers finds all. -/
def Plan.executions (plan : Plan) : List (String × String) :=
  let never : Runner := fun _ _ _ => ⟨.runsForever, true, 0⟩
  let session : Session :=
    match plan with
    | .check .. => .empty
    | .run config request => (Grader.check ⟨config, never⟩ .empty request).2
    | .grade config request =>
      (Grader.submit ⟨config, never⟩ ⟨⟨0⟩, ⟨0, 0⟩, ⟨0, 0⟩⟩ .empty request).2
  session.activity.invocations.reverse

/-- The limits of a plan. -/
def Plan.config : Plan → SandboxConfig
  | .check _ _ config => config
  | .run config _ => config
  | .grade config _ => config

/-- The runner whose runs have all been made before. -/
def recordedRunner (runs : List Run) : Runner := fun n _ _ =>
  runs[n]?.getD ⟨.runsForever, true, 0⟩

/-- Everything from the arguments to what is printed. -/
def perform (files : Files) (env : Environment) (runner : Runner) (stamp : Stamp)
    (arguments : List String) : Printed :=
  match Invocation.ofArguments arguments with
  | .error interruption => interruption.printed
  | .ok invocation =>
    match invocation.plan files env with
    | .error e => e.printed ""
    | .ok plan => plan.perform runner stamp

end Autograder.CommandLine
