import Paje.CodeChange.Binding

/-!
The outcome of one execute attempt: its failures, its evidence, and the bundle that is made of them.
Paths of the workspace are replaced in everything that is kept.
-/

namespace Paje.CodeChange

open Text Run

def canceledFailure (stage : String) : Failure := ⟨stage, .canceled, false, "caller canceled", "caller_canceled"⟩

def executeFailureOf (failureClass : FailureClass) (retryable : Bool) (diagnostic causeCode : String) : Failure :=
  ⟨"execute", failureClass, retryable, diagnostic, causeCode⟩

def ambiguousAttemptFailure : Failure :=
  executeFailureOf .internal false "running attempt outcome is ambiguous" "ambiguous_attempt"

def cleanupFailure : Failure := executeFailureOf .cleanup false "attempt cleanup failed" "cleanup_failed"

def executorUnavailableFailure : Failure :=
  executeFailureOf .environment false "worker runtime is unavailable" "executor_unavailable"

def agentEnvironmentFailure : Failure :=
  executeFailureOf .environment false "agent environment declaration is invalid" "agent_environment_invalid"

def agentProtocolFailure : Failure :=
  executeFailureOf .agent false "agent harness protocol failed" "agent_protocol"

def secretAcquisitionFailure (canceled : Bool) : Failure :=
  if canceled then canceledFailure "execute"
  else executeFailureOf .environment true "required agent secret is unavailable" "secret_unavailable"

def secretDetectedFailure : Failure :=
  executeFailureOf .policy false "execution output contains secret material" "secret_detected"

def captureFailure (agentCompleted : Bool) : Failure :=
  executeFailureOf .internal (!agentCompleted) "capture change set failed" "capture_failed"

def unsafeEphemeralPrefixFailure : Failure :=
  executeFailureOf .internal false "execution environment contains an unsafe ephemeral path" "unsafe_ephemeral_prefix"

def classifyWorkspaceFailure (canceled : Bool) (errors : Errors) : Failure :=
  if canceled || .canceled ∈ errors then canceledFailure "execute"
  else executeFailureOf .environment true "prepare isolated workspace failed" "workspace_unavailable"

def classifyProfileFailure (canceled : Bool) (errors : Errors) : Failure :=
  if canceled || .canceled ∈ errors then canceledFailure "execute"
  else if isEnvironmentError errors then
    executeFailureOf .environment false "required repository tool is unavailable" "tool_unavailable"
  else executeFailureOf .environment false "repository preflight failed" "preflight_failed"

def transientEnvironmentCause (code : String) : Bool :=
  code = "timeout" || code = "docker_unavailable" || code = "temporary_unavailable"

def safeCauseCode (code fallback : String) : String :=
  let code := trimSpace code
  if code = "" || code.toList.any (· ∈ [' ', '\t', '\r', '\n', '\x00']) then fallback else code

def validateScrubPrefix (value : String) : Except String Unit := do
  require (value ≠ "" ∧ value = trimSpace value ∧ beginsWith "/" value) "prefix must be an exact absolute path"
  require (clean value = value) "prefix must already be canonical"
  require (value ≠ "/") "filesystem root is not a safe scrub prefix"
  require ((dropStart "/" value).toList.contains '/') "top-level directory is too broad for path scrubbing"

def scrubBoundary (c : Char) : Bool := !(alphanumeric c || c ∈ ['_', '-', '.', '/', '\\'])

/-- `replaceAbsolutePrefix`: `before` is the character before `value` since the last occurrence; the bound is on
the characters left. -/
def replacePath (path replacement : List Char) : Nat → Option Char → List Char → List Char
  | 0, _, value => value
  | _ + 1, _, [] => []
  | bound + 1, before, c :: value =>
    if path.isPrefixOf (c :: value) then
      let rest := (c :: value).drop path.length
      let bounded := before.all scrubBoundary && rest.head?.all fun after =>
        after = '/' || after = '\\' || scrubBoundary after
      (if bounded then replacement else path) ++ replacePath path replacement bound none rest
    else c :: replacePath path replacement bound (some c) value

/-- `durableScrubber.string` for the workspace at `workspace`. -/
def scrub (workspace value : String) : String :=
  String.ofList (replacePath workspace.toList ['.'] value.length none value.toList)

def scrubTable (workspace : String) (values : Table String) : Except String (Table String) := do
  let keys := values.keys.map (scrub workspace)
  require keys.Nodup "durable evidence key collision after path scrubbing"
  return values.entries.foldl (fun t entry => t.put (scrub workspace entry.1) (scrub workspace entry.2)) ∅

def durableDirectory (workspace directory : String) : Except String String := do
  require (¬ blank workspace ∧ ¬ blank directory) "durable verification directory is missing"
  if beginsWith "/" directory then
    let root := clean workspace
    let target := clean directory
    if target = root then return "."
    else do
      require (beginsWith (root ++ "/") target) "make verification directory durable: directory escapes workspace"
      return dropStart (root ++ "/") target
  else
    let relative := clean directory
    require (relative ≠ ".." ∧ ¬ beginsWith "../" relative) "durable verification directory escapes workspace"
    return relative

def scrubEnvironment (workspace : String) : Option (Table String) → Except String (Option (Table String))
  | none => .ok none
  | some values => some <$> scrubTable workspace values

def scrubCheck (workspace : String) (result : CheckResult) : Except String CheckResult := do
  let directory ← durableDirectory workspace result.command.directory
  let environment ← scrubEnvironment workspace result.command.environment
  return { result with
    command := { result.command with
      name := scrub workspace result.command.name
      directory
      executable := scrub workspace result.command.executable
      args := result.command.args.map (scrub workspace)
      environment }
    output := scrub workspace result.output
    failureClass := scrub workspace result.failureClass
    causeCode := scrub workspace result.causeCode }

def validateRepositoryPath (value : String) : Except String Unit := do
  require (value ≠ "" ∧ ¬ containsNul value ∧ ¬ value.toList.contains '\\' ∧ ¬ beginsWith "/" value)
    "path must be a non-empty UTF-8 repository-relative path"
  require (clean value ≠ "." ∧ clean value ≠ ".." ∧ ¬ beginsWith "../" (clean value) ∧ clean value = value)
    "path is not canonical repository-relative form"

def validateCapturedEvidence (workspace : String) (capture : Capture) : Except String Unit := do
  capture.changes.forM fun change => do
    validateRepositoryPath change.path
    if change.oldPath = "" then pure () else validateRepositoryPath change.oldPath
  require (String.ofList (replacePath workspace.toList ['\x00'] capture.patch.length none capture.patch.toList) =
    capture.patch) "captured patch contains an ephemeral absolute path"

/-- `executeOutcome`. -/
structure Outcome where
  workspace : String
  execution : SandboxResult := {}
  agentOutput : String := ""
  profile : Inspection := {}
  verification : List CheckResult := []
  capture : Capture := ⟨"", [], ""⟩
  runtimeIsolated : Bool := false
  runtimeCertified : Bool := false
  harnessEvidence : ProbeEvidence := ⟨"", "", "", false, 0⟩
  toolEvidence : List ProbeEvidence := []
  attemptEvidence : List AttemptEvidence := []
  confirmedEnvironmentKeys : Table (List String) := ∅
  confirmedCommandKeys : Table (List String) := ∅
  artifact : Option Reference := none
  failure : Option Failure := none
  cause : Errors := []
  cleanupFailed : Bool := false
  evidence : Table String := ∅
  ownershipLost : Bool := false
  ownershipRecord : Option CodeRun := none
  ownershipErrors : Errors := []

namespace Outcome

def normalizeCleanupFailure (outcome : Outcome) : Outcome :=
  if outcome.cleanupFailed then
    let diagnostic := match outcome.failure with
      | some failure =>
        if failure.diagnostic ≠ "" && failure.failureClass ≠ .cleanup then
          failure.diagnostic ++ "; attempt cleanup failed"
        else "attempt cleanup failed"
      | none => "attempt cleanup failed"
    { outcome with failure := some { cleanupFailure with diagnostic := safeDiagnostic diagnostic } }
  else outcome

def withFailure (outcome : Outcome) (failure : Failure) (cause : Errors := []) : Outcome :=
  normalizeCleanupFailure { outcome with
    failure := some { failure with diagnostic := safeDiagnostic failure.diagnostic }
    cause := outcome.cause ++ cause }

def withCleanupFailure (outcome : Outcome) (cause : Errors) : Outcome :=
  if cause = [] then outcome
  else normalizeCleanupFailure { outcome with cleanupFailed := true, cause := outcome.cause ++ cause }

/-- `withCancellation` of `ctx.Err()`. -/
def withCancellation (outcome : Outcome) (canceled : Bool) : Outcome :=
  if !canceled then outcome
  else if outcome.cleanupFailed || outcome.failure.any fun failure =>
      failure.causeCode = "ambiguous_attempt" || failure.failureClass = .cleanup then
    normalizeCleanupFailure { outcome with cause := outcome.cause ++ [.canceled] }
  else outcome.withFailure (canceledFailure "execute") [.canceled]

def withOwnershipLost (outcome : Outcome) (record : Option CodeRun) (cause : Errors) : Outcome :=
  { outcome with
    ownershipLost := true
    ownershipRecord := record
    ownershipErrors := outcome.ownershipErrors ++ if cause = [] then [.phaseInProgress] else cause }

def withEvidence (outcome : Outcome) (key value : String) : Outcome :=
  { outcome with evidence := outcome.evidence.put key value }

def withArtifact (outcome : Outcome) (reference : Reference) : Outcome := { outcome with artifact := some reference }

variable [digests : Digests]

def markAttempt (outcome : Outcome) (attempt : AttemptID) (update : AttemptEvidence → AttemptEvidence) : Outcome :=
  if outcome.attemptEvidence.any fun evidence => evidence.id.key = attempt.key then
    { outcome with attemptEvidence := outcome.attemptEvidence.map fun evidence =>
        if evidence.id.key = attempt.key then update evidence else evidence }
  else { outcome with attemptEvidence := outcome.attemptEvidence ++ [update { id := attempt }] }

def environmentKeys (outcome : Outcome) (purpose : Purpose) : List String :=
  sortedKeys (outcome.attemptEvidence.flatMap fun attempt =>
    if attempt.id.purpose = purpose && attempt.started then
      (outcome.confirmedEnvironmentKeys.get? attempt.id.key).getD []
    else [])

def commandEnvironmentKeys (outcome : Outcome) (attempt : AttemptID) : Option (List String) :=
  outcome.confirmedCommandKeys.get? attempt.key

/-- `encodeStrings`: the JSON text of a list of environment keys, which need no escapes. -/
def encodeStrings (values : List String) : String :=
  "[" ++ ",".intercalate (values.map fun value => "\"" ++ value ++ "\"") ++ "]"

def presentedEnvironmentKeys (request : SandboxRequest) : List String :=
  sortedKeys (request.environment.keys ++ request.command.environment.keys ++
    (request.secrets.filter (·.delivery = .environment)).map (·.target))

def withPresentedKeys (outcome : Outcome) (purpose : Purpose) : Outcome :=
  let keys := encodeStrings (outcome.environmentKeys purpose)
  match purpose with
  | .agent => (outcome.withEvidence "agent_attempt_started" "true").withEvidence "agent_environment_keys" keys
  | .verification =>
    (outcome.withEvidence "verification_attempt_started" "true").withEvidence "verification_environment_keys" keys
  | .probe => outcome

def recordExecution (outcome : Outcome) (request : SandboxRequest) (result : SandboxResult) : Outcome :=
  let marked := outcome.markAttempt request.attempt fun evidence => { evidence with
    created := result.created
    started := result.started
    completed := result.completed
    exitCode := result.exitCode
    duration := result.duration
    truncated := result.stdoutTruncated || result.stderrTruncated }
  if result.started then
    withPresentedKeys { marked with
      confirmedEnvironmentKeys :=
        marked.confirmedEnvironmentKeys.put request.attempt.key (presentedEnvironmentKeys request)
      confirmedCommandKeys :=
        marked.confirmedCommandKeys.put request.attempt.key (sortedKeys request.command.environment.keys) }
      request.attempt.purpose
  else marked

end Outcome

def runtimeEvidence (profile : Profile) (outcome : Outcome) : RuntimeEvidence :=
  match profile.runtime.kind with
  | .oci => ⟨.oci, imageDigest profile.runtime.image, profile.runtime.platform, outcome.runtimeIsolated,
      outcome.runtimeCertified⟩
  | .host => ⟨.host, "", "", outcome.runtimeIsolated, outcome.runtimeCertified⟩

variable [digests : Digests]

def executionEvidence (profile : Profile) (outcome : Outcome) : ExecutionEvidence where
  exitCode := outcome.execution.exitCode
  duration := outcome.execution.duration
  started := outcome.execution.started
  completed := outcome.execution.completed
  truncated := outcome.execution.stdoutTruncated || outcome.execution.stderrTruncated
  profile := ⟨profile.id.name, profile.id.revision, profile.digest⟩
  runtime := runtimeEvidence profile outcome
  harness := outcome.harnessEvidence
  tools := outcome.toolEvidence
  attempts := outcome.attemptEvidence
  agentEnvironmentKeys :=
    let keys := outcome.environmentKeys .agent
    if keys = [] then none else some keys
  verificationEnvironmentKeys := outcome.environmentKeys .verification

def buildBundle (record : CodeRun) (profile : Profile) (outcome : Outcome) : Except String Bundle := do
  let memoryIDs := sortStrings ((record.memorySnapshot.getD []).map (·.id))
  let verification ← outcome.verification.mapM (scrubCheck outcome.workspace)
  let preflight ← scrubTable outcome.workspace outcome.profile.facts
  return {
    manifest := {
      runID := record.id
      template := record.template
      repository := record.repositoryURI
      baseSHA := record.baseSHA
      treeSHA := outcome.capture.treeSHA
      changes := outcome.capture.changes
      memoryIDs
      memoryCount := memoryIDs.length }
    changesPatch := outcome.capture.patch
    agentOutput := scrub outcome.workspace outcome.agentOutput
    executionMetadata := executionEvidence profile outcome
    verification
    preflight
    warnings := outcome.profile.warnings.map (scrub outcome.workspace) }

end Paje.CodeChange
