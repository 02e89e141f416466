import Paje.CodeChange.Types
import Mathlib.Algebra.GroupWithZero.Nat

/-!
One-shot sandboxes: what a request has to declare, the receipt that confirms a child's start, and the
adapter that runs a verification command in a sandbox of its own.
-/

namespace Paje.CodeChange

open Text Run

def sandboxWorkspaceRoot : String := "/workspace"

def canonicalSandboxPATH : String := "/usr/local/go/bin:/usr/local/bin:/usr/bin:/bin"

def secretMountRoot : String := "/run/paje/secrets"

def second : Int := 1000000000

def minute : Int := 60 * second

/-- `stagePattern`. -/
def validStageName (value : String) : Bool :=
  matchesWord lowerLetter (fun c => lowerLetter c || digit c || c = '-') 62 value

/-- `executablePattern`. -/
def validExecutable (value : String) : Bool :=
  matchesWord alphanumeric (fun c => alphanumeric c || c ∈ ['.', '_', '+', '-']) 127 value

/-- `environmentPattern`. -/
def validEnvironmentKey (value : String) : Bool :=
  matchesWord (fun c => lowerLetter c || upperLetter c || c = '_') (fun c => alphanumeric c || c = '_') 127 value

def shells : List String :=
  ["sh", "bash", "zsh", "fish", "dash", "cmd", "cmd.exe", "powershell", "powershell.exe", "pwsh", "pwsh.exe"]

def baseName (path : String) : String := String.ofList ((splitSlash path.toList).getLastD [])

def isShell (executable : String) : Bool := (baseName executable).toLower ∈ shells

/-- `pathWithin` for a clean absolute path under a root other than `/`. -/
def pathWithin (root path : String) : Bool := path = root || beginsWith (root ++ "/") path

def validateAttempt (id : AttemptID) : Except String Unit :=
  require (validRunID id.runID ∧ validStageName id.stage ∧ 0 < id.attempt ∧ ¬ id.startedAt.IsZero)
    "executor attempt identity is incomplete"

/-- `AttemptID.Key`. -/
def AttemptID.key [digests : Digests] (id : AttemptID) : String :=
  match validateAttempt id with
  | .ok _ => digests.attemptKey id
  | .error _ => ""

def maxEnvironmentBytes : Nat := 2 ^ 20

def environmentBytes (environment : Table String) : Nat :=
  (environment.entries.map fun entry => entry.1.utf8ByteSize + entry.2.utf8ByteSize).sum

def validateEnvironment (environment : Table String) : Except String Unit := do
  require (environment.entries.length ≤ 512) "executor environment has too many keys"
  require (∀ entry ∈ environment.entries, validEnvironmentKey entry.1 ∧ ¬ containsNul entry.2)
    "executor environment is invalid"
  require (environmentBytes environment ≤ maxEnvironmentBytes) "executor environment is too large"

def validateSandboxCommand (command : SandboxCommand) : Except String Unit := do
  require (validExecutable command.executable ∧ ¬ isShell command.executable)
    "executor command executable is invalid"
  require (command.args.length ≤ 256) "executor command has too many arguments"
  require (∀ argument ∈ command.args, argument.utf8ByteSize ≤ 65536 ∧ ¬ containsNul argument)
    "executor command argument is invalid"
  require (¬ containsNul command.directory ∧ beginsWith "/" command.directory ∧
    clean command.directory = command.directory ∧ pathWithin sandboxWorkspaceRoot command.directory)
    "executor command directory escapes workspace"
  validateEnvironment command.environment

def validHostPath (path : String) : Prop :=
  ¬ containsNul path ∧ beginsWith "/" path ∧ clean path = path ∧ path ≠ "/"

instance (path : String) : Decidable (validHostPath path) := inferInstanceAs (Decidable (_ ∧ _))

def disjointKeys (one two : Table String) : Prop := ∀ key ∈ one.keys, key ∉ two.keys

instance (one two : Table String) : Decidable (disjointKeys one two) :=
  inferInstanceAs (Decidable (∀ key ∈ one.keys, key ∉ two.keys))

def validateSecretDeclarations (request : SandboxRequest) : Except String Unit :=
  request.profile.secrets.forM fun requirement =>
    if requirement.delivery = .environment then do
      require (requirement.target ∉ request.environment.keys)
        "executor secret environment target collides with baseline environment"
      require (requirement.target ∉ request.command.environment.keys)
        "executor secret environment target collides with command environment"
    else pure ()

def validateDeclaration [ProfileSha] (request : SandboxRequest) : Except String Unit := do
  validateAttempt request.attempt
  require (request.profile.Exact ∧ request.profile.digest ≠ "")
    "executor request requires an exact canonical worker profile"
  require (validHostPath request.hostPath) "executor workspace host path is invalid"
  validateSandboxCommand request.command
  validateEnvironment request.environment
  require (request.environment.get? "PATH" = some canonicalSandboxPATH)
    "executor request requires exact canonical PATH"
  require (environmentBytes request.environment + environmentBytes request.command.environment ≤
    maxEnvironmentBytes) "executor environment is too large"
  require (disjointKeys request.command.environment request.environment)
    "executor command environment collides with baseline environment"
  require (0 < request.timeout ∧ request.timeout ≤ 24 * 60 * minute ∧ 0 < request.outputLimit ∧
    request.outputLimit ≤ 67108864) "executor request limits are invalid"
  validateSecretDeclarations request

def childStartReceiptVersion : String := "paje.araihu.com/child-start/v1"

def hexLetter (c : Char) : Bool := digit c || ('a' ≤ c && c ≤ 'f') || ('A' ≤ c && c ≤ 'F')

def validHex (value : String) (length : Nat) : Bool := value.length = length && value.toList.all hexLetter

def validateReceipt [digests : Digests] (receipt : ChildStartReceipt) : Except String Unit := do
  require (receipt.version = childStartReceiptVersion) "child-start receipt version is invalid"
  validateAttempt receipt.attempt
  validateSandboxCommand ⟨receipt.executable, receipt.args, receipt.directory, ∅⟩
  require (receipt.commandDigest = digests.receiptCommand receipt.executable receipt.args receipt.directory ∧
    validHex receipt.environmentDigest 64 ∧ validHex receipt.challenge 64)
    "child-start receipt binding is invalid"

def validateEnvironmentFiles (environment command files : Table String) : Except String Unit := do
  files.entries.forM fun entry => do
    require (validEnvironmentKey entry.1 ∧ ¬ containsNul entry.2 ∧ beginsWith "/" entry.2 ∧
      clean entry.2 = entry.2 ∧ pathWithin secretMountRoot entry.2 ∧ entry.2 ≠ secretMountRoot)
      "child-start environment materialization declaration is invalid"
    require (entry.1 ∉ environment.keys) "child-start environment materialization collides with baseline"
    require (entry.1 ∉ command.keys) "child-start environment materialization collides with command environment"
  require files.values.Nodup "child-start environment materialization path is duplicated"

def newChildStartReceipt [digests : Digests] (attempt : AttemptID) (command : SandboxCommand)
    (environment files : Table String) (challenge : String) : Except String ChildStartReceipt := do
  validateAttempt attempt
  validateSandboxCommand command
  validateEnvironment environment
  require (disjointKeys command.environment environment) "child-start environment declaration collides"
  validateEnvironmentFiles environment command.environment files
  require (validHex challenge 64) "child-start challenge is invalid"
  let receipt : ChildStartReceipt := {
    version := childStartReceiptVersion
    attempt
    executable := command.executable
    args := command.args
    directory := command.directory
    commandDigest := digests.receiptCommand command.executable command.args command.directory
    environmentDigest := digests.receiptEnvironment environment command.environment files
    challenge }
  validateReceipt receipt
  return receipt

def receiptEnvironmentFiles [digests : Digests] (request : SandboxRequest) : Table String :=
  request.secrets.foldl (fun files materialization =>
    if materialization.delivery = .environment then
      files.put materialization.target
        ("/run/paje/secrets/environment/" ++ digests.halfDigest materialization.target)
    else files) ∅

/-- `Matches`: both receipts are valid and have one digest. -/
def receiptMatches [digests : Digests] (receipt expected : ChildStartReceipt) : Bool :=
  succeeds (validateReceipt receipt) (fun _ => true) && succeeds (validateReceipt expected) (fun _ => true) &&
    digests.receipt receipt = digests.receipt expected

def validateChildStartConfirmation [Digests] (request : SandboxRequest) (result : SandboxResult) :
    Except String Unit :=
  if result.started then
    match result.receipt with
    | none => .error "executor child start lacks a private receipt"
    | some receipt => do
      require result.created "executor child start lacks a private receipt"
      validateReceipt receipt
      match newChildStartReceipt request.attempt request.command request.environment
          (receiptEnvironmentFiles request) receipt.challenge with
      | .error _ => .error "executor child-start receipt is rebound"
      | .ok expected => require (receiptMatches receipt expected) "executor child-start receipt is rebound"
  else
    require (result.completed = false ∧ result.receipt = none)
      "executor result claims completion or receipt without child start"

/-- `commandrunner.Runner`; its sequence number is passed along. -/
structure Runner where
  profile : Profile
  attempt : AttemptID
  workspace : String
  environment : Table String
  outputLimit : Int
  writable : Bool := false

/-- `commandrunner.New`. -/
def newRunner [ProfileSha] (runner : Runner) : Except String Runner := do
  require (0 < runner.outputLimit ∧ beginsWith "/" runner.workspace ∧ clean runner.workspace = runner.workspace ∧
    runner.workspace ≠ "/") "command runner configuration is invalid"
  match validateAttempt runner.attempt with
  | .error _ => .error "command runner attempt must be probe or verification"
  | .ok _ => do
    require (runner.attempt.purpose = .probe ∨ runner.attempt.purpose = .verification)
      "command runner attempt must be probe or verification"
    require (runner.profile.Exact ∧ runner.profile.digest ≠ "") "command runner profile is not exact"
    return { runner with environment := runner.environment.put "PATH" canonicalSandboxPATH }

def sandboxDirectory (directory : String) : Option String :=
  let directory := trimSpace directory
  let directory := if directory = "" then "." else directory
  if beginsWith "/" directory || clean directory ≠ directory || (splitSlash directory.toList).contains ['.', '.'] then
    none
  else if directory = "." then
    some sandboxWorkspaceRoot
  else
    some (clean (sandboxWorkspaceRoot ++ "/" ++ directory))

def CheckResult.failed (result : CheckResult) (failureClass causeCode : String) (required : Bool) : CheckResult :=
  { result with
    passed := false
    failureClass
    causeCode
    warning := !required && (failureClass = "environment" || failureClass = "verification") }

def CheckResult.classify (result : CheckResult) (execution : SandboxResult) (errors : Errors)
    (required : Bool) : CheckResult :=
  if execution.secretDetected then
    result.failed "policy" "secret_detected" required
  else if errors ≠ [] then
    match providerError errors with
    | some (failureClass, causeCode) => result.failed failureClass causeCode required
    | none =>
      if .canceled ∈ errors || .deadlineExceeded ∈ errors then result.failed "canceled" "caller_canceled" required
      else result.failed "internal" "execute" required
  else if !execution.created || !execution.started || !execution.completed then
    result.failed "internal" "incomplete_result" required
  else if execution.exitCode ≠ 0 then
    result.failed "verification" "nonzero_exit" required
  else
    { result with passed := true }

def Runner.request (runner : Runner) (sequence : Nat) (command : Check) (directory : String) : SandboxRequest where
  attempt := { runner.attempt with sequence }
  profile := runner.profile
  command := ⟨command.executable, command.args, directory, command.environment.getD ∅⟩
  hostPath := runner.workspace
  writable := runner.writable
  environment := runner.environment
  timeout := command.timeout
  outputLimit := runner.outputLimit

def executed (result : CheckResult) (execution : SandboxResult) (errors : Errors) : CheckResult :=
  CheckResult.classify { result with
    exitCode := execution.exitCode
    duration := execution.duration
    output := if execution.secretDetected then "" else execution.stdout ++ execution.stderr
    truncated := execution.stdoutTruncated || execution.stderrTruncated } execution errors result.command.required

/-- `Runner.Run` over any executor, with the sequence number of the last command: the result and the next
sequence number. -/
def Runner.run {m : Type → Type} [Monad m] (runner : Runner)
    (execute : SandboxRequest → m (SandboxResult × Errors)) (destroy : AttemptID → m Errors)
    (sequence : Nat) (command : Check) : m (CheckResult × Nat) :=
  let result : CheckResult := { command := { command with environment := none } }
  match sandboxDirectory command.directory with
  | none => pure (result.failed "internal" "invalid_command" command.required, sequence)
  | some directory => do
    let request := runner.request (sequence + 1) command directory
    let (execution, errors) ← execute request
    let result := executed result execution errors
    if execution.created || ambiguousAttempt errors then do
      let destroyed ← destroy request.attempt
      if destroyed = [] then pure (result, sequence + 1)
      else pure (result.failed "cleanup" "destroy" command.required, sequence + 1)
    else pure (result, sequence + 1)

end Paje.CodeChange
