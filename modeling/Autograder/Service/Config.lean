import Autograder.Codec.Grading

/-!
# Configuration

The configuration of the service: a file that may be missing, with variables of the environment
that replace what it says.
-/

namespace Autograder

/-- The configuration of the service. -/
structure ServiceConfig where
  bindAddr : String := "0.0.0.0:3000"
  sandbox : SandboxConfig := {}
  resultTtlSecs : UInt64 := 86400
  /-- Where results are shared with other services, if anywhere. -/
  cacheUrl : Option String := none
deriving DecidableEq

/-- What can be found at a path. -/
inductive FileState where
  | missing
  /-- There is something, but no text. -/
  | unreadable
  | text (content : String)
deriving DecidableEq

/-- The variables of the environment. -/
abbrev Environment := String → Option String

/-- Why there is no configuration. -/
inductive LoadError where
  /-- What stands at a path is no text. -/
  | unreadable (path : String)
  /-- The text at a path is not a document that fits. -/
  | unfit (path : String) (reason : DecodeError)
  /-- A variable has to be an integer. -/
  | badVariable (name : String)
deriving DecidableEq

/-- What is said about a failure to load. -/
def LoadError.message : LoadError → String
  | unreadable path => "Failed to read " ++ path
  | unfit path _ => "Failed to parse " ++ path
  | badVariable name => name ++ " must be an integer"

namespace ServiceConfig

/-- Configurations as documents; everything has a usual value. -/
def codec : Codec ServiceConfig :=
  (Record.cons (.defaulted "bind_addr" .string "0.0.0.0:3000") <|
    .cons (.defaulted "sandbox" SandboxConfig.codec {}) <|
    .cons (.defaulted "result_ttl_secs" .word64 86400) <|
    .cons (.defaulted "redis_url" Codec.string.option none) .nil).codec
    (fun (addr, sandbox, ttl, url, _) => ⟨addr, sandbox, ttl, url⟩)
    (fun c => (c.bindAddr, c.sandbox, c.resultTtlSecs, c.cacheUrl, ()))

/-- A word of 64 bits from the text of a variable. -/
def wordVariable (env : Environment) (name : String) (usual : UInt64) :
    Except LoadError UInt64 :=
  match env name with
  | none => .ok usual
  | some text =>
    match (Decimal.natural? text.toList).filter (· < 18446744073709551616) with
    | some n => .ok (UInt64.ofNat n)
    | none => .error (.badVariable name)

/-- The configuration with the variables of the environment put in. -/
def withEnvironment (config : ServiceConfig) (env : Environment) :
    Except LoadError ServiceConfig := do
  let timeout ← wordVariable env "CODEGRADE_TIMEOUT_MS" config.sandbox.timeoutMs
  let length ← wordVariable env "CODEGRADE_MAX_OUTPUT" config.sandbox.maxOutputLength
  return {
    config with
    bindAddr := (env "CODEGRADE_BIND_ADDR").getD config.bindAddr
    sandbox := { config.sandbox with timeoutMs := timeout, maxOutputLength := length }
    cacheUrl := env "REDIS_URL" <|> config.cacheUrl }

/-- The variables that are looked at. -/
def variableNames : List String :=
  ["CODEGRADE_TIMEOUT_MS", "CODEGRADE_MAX_OUTPUT", "CODEGRADE_BIND_ADDR", "REDIS_URL"]

/-- The path at which a configuration is looked for when none is named. -/
def defaultPath : String := "config/codegrade.json"

/-- The configuration at a path; where there is nothing, the usual one. -/
def load (file : FileState) (path : String) (env : Environment) :
    Except LoadError ServiceConfig :=
  match file with
  | .missing => withEnvironment {} env
  | .unreadable => .error (.unreadable path)
  | .text content =>
    match codec.read content.toList with
    | .ok config => config.withEnvironment env
    | .error e => .error (.unfit path e)

end ServiceConfig

end Autograder
