import Paje.Run.State
import Paje.Lib.Process

/-!
Values of the code-change workflow. A JSON text is represented by the value that it encodes, a
SHA-256 digest by a function of the value that is hashed. A Go error is the list of the errors it
joins or wraps, in the order in which `errors.As` visits them, and `nil` is the empty list.
-/

namespace Paje.CodeChange

open Text Run

/-- `verification.CommandSpec`, with the duration that its timeout text denotes. -/
structure CommandSpec where
  name : String
  directory : String := ""
  executable : String
  args : List String := []
  timeout : Int
  required : Bool
  deriving DecidableEq

structure ModuleExclusion where
  (path reason : String)
  deriving DecidableEq

/-- `codechange.Publication`. -/
structure PublicationSpec where
  mode : PublicationMode := .artifact
  provider : String := ""
  targetBranch : String := ""
  title : String := ""
  draft : Bool := false
  deriving DecidableEq

structure Input where
  idempotencyKey : String := ""
  (taskDescription repositoryURI baseRef : String)
  memoryQuery : String := ""
  memoryLimit : Int
  tags : Table String
  workerProfile : ProfileID
  profile : String
  checks : List CommandSpec := []
  moduleExclusions : List ModuleExclusion := []
  publication : PublicationSpec := {}
  deriving DecidableEq

inductive Fault where
  /-- `ErrPhaseInProgress` -/
  | phaseInProgress
  /-- `ErrRunBinding` -/
  | runBinding (message : String)
  | run (error : Run.Error)
  | phase (failure : Failure)
  /-- `context.Canceled` -/
  | canceled
  /-- `context.DeadlineExceeded` -/
  | deadlineExceeded
  /-- `executor.ProviderError` -/
  | provider (failureClass causeCode : String)
  /-- `repository.EnvironmentError` -/
  | environment (operation : String)
  /-- an error with a method `Retryable` -/
  | retryable (value : Bool)
  /-- `publisher.ErrConflict` -/
  | conflict
  /-- `workerprofile.ErrProfileNotFound` -/
  | profileNotFound
  /-- `secret.ErrBindingNotFound` -/
  | bindingNotFound
  /-- `secret.ErrBindingUnauthorized` -/
  | bindingUnauthorized
  | text (message : String)
  deriving DecidableEq

abbrev Errors := List Fault

def typedRetryable (errors : Errors) : Bool :=
  (errors.findSome? fun fault => match fault with
    | .retryable value => some value
    | _ => none).getD false

/-- `errors.As` of an `executor.ProviderError`: its class and cause code. -/
def providerError (errors : Errors) : Option (String × String) :=
  errors.findSome? fun fault => match fault with
    | .provider failureClass causeCode => some (failureClass, causeCode)
    | _ => none

/-- `providerReportedAmbiguousAttempt`. -/
def ambiguousAttempt (errors : Errors) : Bool := (providerError errors).any (·.2 = "ambiguous_attempt")

def isEnvironmentError (errors : Errors) : Bool :=
  errors.any fun fault => match fault with
    | .environment _ => true
    | _ => false

inductive Purpose where
  | probe | agent | verification
  deriving DecidableEq

structure AttemptID where
  (runID stage : String)
  attempt : Nat
  startedAt : Time
  purpose : Purpose
  sequence : Nat
  deriving DecidableEq

/-- `executor.Command`. -/
structure SandboxCommand where
  executable : String
  args : List String := []
  directory : String
  environment : Table String := ∅

structure ChildStartReceipt where
  version : String
  attempt : AttemptID
  executable : String
  args : List String
  (directory commandDigest environmentDigest challenge : String)

/-- `secret.Materialization`. -/
structure Materialization where
  delivery : Delivery
  (target contents : String)

/-- `executor.Request`; the sandbox path of its workspace is always `/workspace`. -/
structure SandboxRequest where
  attempt : AttemptID
  profile : Profile
  command : SandboxCommand
  hostPath : String
  writable : Bool := false
  environment : Table String
  secrets : List Materialization := []
  (timeout outputLimit : Int)

/-- `executor.Result`. -/
structure SandboxResult where
  created : Bool := false
  started : Bool := false
  completed : Bool := false
  receipt : Option ChildStartReceipt := none
  exitCode : Int := 0
  stdout : String := ""
  stderr : String := ""
  duration : Int := 0
  stdoutTruncated : Bool := false
  stderrTruncated : Bool := false
  secretDetected : Bool := false
  safeFacts : Table String := ∅

/-- `executor.State`. -/
inductive SandboxState where
  | absent | resourceCreated | bootstrapStarted | childStarted | terminalComplete | destroyed | unknown
  deriving DecidableEq

/-- `verification.Command`. -/
structure Check where
  (name directory executable : String)
  args : List String := []
  environmentKeys : Option (List String) := none
  environment : Option (Table String) := none
  timeout : Int
  required : Bool
  deriving DecidableEq

/-- `verification.Result`. -/
structure CheckResult where
  command : Check
  exitCode : Int := 0
  duration : Int := 0
  output : String := ""
  truncated : Bool := false
  passed : Bool := false
  warning : Bool := false
  failureClass : String := ""
  causeCode : String := ""
  deriving DecidableEq

/-- `repository.ProfileResult`. -/
structure Inspection where
  facts : Table String := ∅
  warnings : List String := []
  commands : List Check := []

/-- `artifact.Change`. -/
structure FileChange where
  path : String
  oldPath : String := ""
  status : String
  oldMode : String := ""
  newMode : String := ""
  deriving DecidableEq

structure Member where
  (name sha256 : String)
  size : Int
  deriving DecidableEq

structure Manifest where
  schemaVersion : Int := 0
  runID : String
  template : TemplateID
  (repository baseSHA treeSHA : String)
  changes : List FileChange
  members : List Member := []
  memoryIDs : List String
  memoryCount : Int
  deriving DecidableEq

structure WorkerProfileEvidence where
  name : String
  revision : Nat
  digest : String
  deriving DecidableEq

structure RuntimeEvidence where
  kind : RuntimeKind
  imageDigest : String := ""
  platform : String := ""
  (isolated certified : Bool)
  deriving DecidableEq

/-- `HarnessEvidence` and `ToolEvidence`, which have the same fields. -/
structure ProbeEvidence where
  (name declaredVersion probedVersion : String)
  probePassed : Bool
  sequence : Nat
  deriving DecidableEq

structure AttemptEvidence where
  id : AttemptID
  created : Bool := false
  started : Bool := false
  completed : Bool := false
  canceled : Bool := false
  destroyed : Bool := false
  exitCode : Int := 0
  duration : Int := 0
  truncated : Bool := false
  deriving DecidableEq

/-- `ExecutionEvidence` of a portable execution; durations are in nanoseconds. -/
structure ExecutionEvidence where
  (exitCode duration : Int)
  (started completed truncated : Bool)
  profile : WorkerProfileEvidence
  runtime : RuntimeEvidence
  harness : ProbeEvidence
  tools : List ProbeEvidence
  attempts : List AttemptEvidence
  agentEnvironmentKeys : Option (List String)
  verificationEnvironmentKeys : List String
  deriving DecidableEq

structure Bundle where
  manifest : Manifest
  (changesPatch agentOutput : String)
  executionMetadata : ExecutionEvidence
  verification : List CheckResult
  preflight : Table String
  warnings : List String

/-- `gitcapture.Result`. -/
structure Capture where
  patch : String
  changes : List FileChange
  treeSHA : String

/-! ### Decisions and publications -/

structure ApprovalRequest where
  (runID templateID repository baseSHA targetBranch : String)
  publicationMode : PublicationMode
  (publicationBranch artifactDigest : String)
  description : String := ""
  agentSummary : String := ""
  changedPaths : List String := []
  verification : List CheckResult := []
  warnings : List String := []

/-- `publisher.Request`. -/
structure PublisherRequest where
  (runID repository baseSHA targetRef branch : String)
  artifact : Reference
  artifactManifest : Option Manifest := none
  workerProfile : Option Profile := none
  executionEvidence : Option ExecutionEvidence := none
  verification : List CheckResult := []
  (title body : String)
  draft : Bool
  verificationDigest : String := ""
  deriving DecidableEq

/-- `stageOwnership`: one attempt of a stage. -/
structure Ownership where
  name : String
  attempt : Nat
  startedAt : Time

abbrev CodeRun := Record Input

instance : Document Input := ⟨fun input => .ok (some input.workerProfile)⟩

class Digests extends ProfileSha where
  input : Input → String
  attemptKey : AttemptID → String
  receiptCommand : String → List String → String → String
  receiptEnvironment : Table String → Table String → Table String → String
  receipt : ChildStartReceipt → String
  /-- the hexadecimal text of the first half of a digest -/
  halfDigest : String → String
  (patch agentOutput : String → String × Int)
  execution : ExecutionEvidence → String × Int
  verification : List CheckResult → String × Int
  preflight : Table String → String × Int
  warnings : List String → String × Int
  /-- digest and size of the canonical archive of a normalized bundle -/
  archive : Bundle → String × Int

end Paje.CodeChange
