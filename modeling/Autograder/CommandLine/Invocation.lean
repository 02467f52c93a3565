import Autograder.CommandLine.Arguments
import Autograder.Decimal.Scientific
import Autograder.Service.Config

/-!
# Invocations

What the program is asked to do on its command line: to check a program without running it, to run
it on one input, or to grade it against a list of test cases.
-/

namespace Autograder.CommandLine

/-- What is to be done; texts without further meaning are paths of files. -/
inductive Command where
  | check (code : String)
  | run (code : String) (input expected : Option String) (timeoutMs : Option UInt64)
  | grade (code tests : String) (maxPoints : Float) (attempt question : String)
deriving DecidableEq

/-- A command and where its configuration is looked for. -/
structure Invocation where
  configPath : String
  command : Command
deriving DecidableEq

/-- A path. -/
def isPath (text : String) : Bool :=
  !text.isEmpty

/-- A number that a word of 64 bits holds. -/
def word? (text : String) : Option UInt64 :=
  ((Decimal.natural? text.toList).filter (· < 18446744073709551616)).map UInt64.ofNat

/-- The option for the configuration, which any command takes. -/
def configFlag : Flag :=
  ⟨"config", none, isPath⟩

/-- The option for the program. -/
def codeFlag : Flag :=
  ⟨"code", some 'c', isPath⟩

/-- The options of a command, by its word. -/
def flagsOf (command : String) : List Flag :=
  match command with
  | "check" => [codeFlag, configFlag]
  | "run" =>
    [codeFlag, ⟨"input", some 'i', isPath⟩, ⟨"expected", some 'e', isPath⟩,
      ⟨"timeout-ms", some 't', fun s => (word? s).isSome⟩, configFlag]
  | "grade" =>
    [codeFlag, ⟨"tests", some 'T', isPath⟩,
      ⟨"max-points", some 'm', fun s => (Decimal.float? s.toList).isSome⟩,
      ⟨"attempt", some 'a', fun _ => true⟩, ⟨"question", some 'q', fun _ => true⟩, configFlag]
  | _ => []

/-- The words of the commands. -/
def commandWords : List String :=
  ["check", "run", "grade"]

/-- The command with given values of its options. Some options must have one. -/
def Command.ofValues? (command : String) (values : Values) : Option Command := do
  let code ← values.lookup "code"
  match command with
  | "check" => some (.check code)
  | "run" =>
    some (.run code (values.lookup "input") (values.lookup "expected")
      ((values.lookup "timeout-ms").bind word?))
  | "grade" =>
    let tests ← values.lookup "tests"
    let points ← (values.lookup "max-points").bind fun s => Decimal.float? s.toList
    some (.grade code tests points ((values.lookup "attempt").getD "local")
      ((values.lookup "question").getD "local"))
  | _ => none

/-- Help is asked for by a word of its own, perhaps with the word of a command behind it. -/
def readHelp : List String → Interruption
  | [] => .help
  | [command] => if ("help" :: commandWords).contains command then .help else .misuse
  | _ => .misuse

/-- The invocation that arguments spell. A configuration named behind the command counts before one
named in front of it. -/
def Invocation.ofArguments (arguments : List String) : Except Interruption Invocation :=
  match readOptions [configFlag] ("help" :: commandWords) [] arguments with
  | .error e => .error e
  | .ok (_, none) => .error .misuse
  | .ok (outer, some (command, rest)) =>
    if command = "help" then .error (readHelp rest)
    else match readOptions (flagsOf command) [] [] rest with
      | .error e => .error e
      | .ok (values, _) =>
        match Command.ofValues? command values with
        | none => .error .misuse
        | some c =>
          let path := values.lookup "config" <|> outer.lookup "config"
          .ok ⟨path.getD ServiceConfig.defaultPath, c⟩

/-- The paths that an invocation names. -/
def Invocation.paths (i : Invocation) : List String :=
  i.configPath :: match i.command with
    | .check code => [code]
    | .run code input expected _ => code :: (input.toList ++ expected.toList)
    | .grade code tests _ _ _ => [code, tests]

end Autograder.CommandLine
