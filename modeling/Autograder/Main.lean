import Autograder.CommandLine.Plan

/-!
# The program

Reads what a command names, executes its programs against the clock, and prints what comes of it.
Every decision is made in the modules that this one calls.
-/

namespace Autograder.Main

/-- What stands at a path. -/
def lookUp (path : String) : IO FileState := do
  try
    match String.fromUTF8? (← IO.FS.readBinFile path) with
    | some content => return .text content
    | none => return .unreadable
  catch
    | .noFileOrDirectory .. => return .missing
    | _ => return .unreadable

/-- What stands at each of some paths. -/
def lookUpAll (paths : List String) : IO CommandLine.Files := do
  let found ← paths.mapM fun path => return (path, ← lookUp path)
  return fun path => (found.lookup path).getD .missing

/-- The variables of the environment that matter. -/
def environment : IO Environment := do
  let values ← ServiceConfig.variableNames.mapM fun name => return (name, ← IO.getEnv name)
  return fun name => (values.lookup name).join

/-- Executes a program on an input until it ends or its time is up. -/
def execute (timeoutMs : Nat) (execution : String × String) : IO Run := do
  let start ← IO.monoMsNow
  let task ← IO.asTask (IO.lazyPure fun _ => Guest.interpret none execution.1 execution.2)
  for _ in [0:timeoutMs] do
    if (← IO.hasFinished task) || start + timeoutMs ≤ (← IO.monoMsNow) then break
    IO.sleep 1
  let elapsed := (← IO.monoMsNow) - start
  if ← IO.hasFinished task then
    match task.get with
    | .ok outcome => return ⟨.finishes outcome, false, elapsed⟩
    | .error _ => return ⟨.crashes, false, elapsed⟩
  else return ⟨.runsForever, true, elapsed⟩

/-- A new identifier. -/
def newIdentifier : IO Uuid := do
  let bytes ← IO.getRandomBytes 16
  return .ofRandom (BitVec.ofNat 128 (bytes.foldl (fun n b => 256 * n + b.toNat) 0))

/-- What is printed for some arguments. -/
def printedFor (arguments : List String) : IO CommandLine.Printed := do
  match CommandLine.Invocation.ofArguments arguments with
  | .error interruption => return interruption.printed
  | .ok invocation =>
    let files ← lookUpAll invocation.paths
    match invocation.plan files (← environment) with
    | .error e => return e.printed ""
    | .ok plan =>
      let runs ← plan.executions.mapM (execute plan.config.timeoutMs.toNat)
      let stamp : Stamp := ⟨← newIdentifier, ⟨0, 0⟩, ⟨0, 0⟩⟩
      return plan.perform (CommandLine.recordedRunner runs) stamp

end Autograder.Main

/-- Runs the command line. -/
def main (arguments : List String) : IO UInt32 := do
  let printed ← Autograder.Main.printedFor arguments
  IO.print printed.output
  IO.eprint printed.errors
  return printed.exitCode.toUInt32
