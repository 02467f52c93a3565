import Autograder.Text.Casing
import Autograder.Text.Blank

/-!
# Limits of an execution

The limits that a grading call may set, and the constructs that no program may contain.
-/

namespace Autograder

/-- The limits of an execution, and further forbidden constructs. -/
structure SandboxConfig where
  timeoutMs : UInt64 := 5000
  /-- How many characters of output are kept. -/
  maxOutputLength : UInt64 := 10000
  /-- Forbidden beside the baseline. -/
  blockedPatterns : List String := []
deriving DecidableEq

/-- The constructs that are forbidden in every program. -/
def baselinePatterns : List String :=
  ["import os", "import sys", "import subprocess", "import shutil", "import socket",
    "import ctypes", "from os", "from sys", "from subprocess", "__import__", "__builtins__",
    "__class__", "__subclasses__", "__globals__", "open(", "exec(", "eval(", "compile(",
    "globals(", "locals(", "getattr(", "setattr(", "delattr(", "breakpoint(", "os.system",
    "subprocess"]

/-- A pattern as it is compared: in small letters, without the blanks at its ends. -/
def foldPattern (pattern : String) : String :=
  String.ofList (Text.lower (Text.trim pattern.toList))

/-- Adds a pattern behind the others unless it is blank or among them. -/
def addPattern (patterns : List String) (pattern : String) : List String :=
  if pattern.isEmpty || patterns.contains pattern then patterns else patterns ++ [pattern]

/-- All forbidden constructs: the baseline, then the others in their order, each once. -/
def SandboxConfig.mergedPatterns (config : SandboxConfig) : List String :=
  (config.blockedPatterns.map foldPattern).foldl addPattern baselinePatterns

end Autograder
