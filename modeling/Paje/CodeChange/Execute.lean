import Paje.CodeChange.Attempt

/-!
The execute phase: an attempt is started or taken over, its agent runs in a fresh workspace, its changes are
verified, captured and stored, and its outcome is saved.
-/

namespace Paje.CodeChange

open Text Run

variable [digests : Digests] (service : Service)

def buildPrompt (record : CodeRun) (input : Input) (profile : Profile) (facts : Table String) :
    Except Errors String := do
  let prompt := "Task\n" ++ input.taskDescription ++ "\n\nRepository\nBase SHA: " ++ record.baseSHA ++
    "\nProfile: " ++ input.profile ++ "\n" ++ "Worker profile: " ++ profile.id.text ++
    "\nWorker profile digest: " ++ profile.digest ++ "\n" ++ "\n" ++ "Constraints\n" ++
    "- Work only inside the current workspace.\n" ++
    "- Do not publish, push, merge, tag, or read external credentials.\n" ++
    "- Leave all intended file changes in the workspace.\n\n" ++ "Preflight" ++
    String.join ((sortedKeys facts.keys).map fun key => "\n- " ++ key ++ ": " ++ (facts.get? key).getD "") ++
    "\n\nRelevant memory" ++
    String.join ((record.memorySnapshot.getD []).map fun item => "\n- [" ++ item.id ++ "] " ++ item.content)
  require (prompt.utf8ByteSize ≤ 1048576) [.text "agent prompt exceeds configured limit"]
  return prompt

structure Job where
  record : CodeRun
  input : Input
  fence : Fence
  workspace : String
  profile : Profile
  adapter : Adapter
  /-- the environment that the harness declares for the agent -/
  environment : Table String

/-- `validateAgentEnvironmentDeclaration`. -/
def environmentDeclaration (fence : Fence) (workspace : String) (profile : Profile) (environment : Table String) :
    SandboxRequest where
  attempt := executorAttempt fence .agent 0
  profile
  command := ⟨"codex", [], sandboxWorkspaceRoot, environment⟩
  hostPath := workspace
  writable := true
  environment := sandboxEnvironment
  timeout := defaultSandboxTimeout
  outputLimit := defaultOutputLimit

/-- The checks of `executePrepared` before its first effect. -/
def openAttempt (record : CodeRun) (input : Input) (workspace : String) (ownership : Ownership) : Attempting Job := do
  let fence : Fence := ⟨record.id, ownership⟩
  let _ ← Task.expect (validateScrubPrefix workspace) fun message =>
    (·.withFailure unsafeEphemeralPrefixFailure [.text message])
  let profile ← Task.expect (record.workerProfile.elim (.error ()) .ok) fun _ =>
    (·.withFailure ambiguousAttemptFailure [.text "resolved worker profile is missing"])
  let (adapter, environment) ← Task.expect (resolveAgent service profile) fun errors =>
    (·.withFailure executorUnavailableFailure errors)
  let _ ← Task.expect (resolveExecutor service profile) fun errors =>
    (·.withFailure executorUnavailableFailure errors)
  let _ ← Task.expect (validateDeclaration (environmentDeclaration fence workspace profile environment))
    fun message => (·.withFailure agentEnvironmentFailure [.text message])
  Task.update fun outcome => ((outcome.withEvidence "agent_attempt_started" "false").withEvidence
    "verification_attempt_started" "false").withEvidence "verification_environment_keys" "[]"
  return { record, input, fence, workspace, profile, adapter, environment }

def probeHarness (job : Job) : Attempting Unit := do
  let ((result, errors), cleanup) ←
    job.fence.runProbe service job.workspace job.profile job.adapter.probe 0
  let _ ← Task.demand (cleanup = []) (·.withCleanupFailure (errors ++ cleanup))
  let _ ← Task.demand (errors = [] ∧ probeSucceeded result job.profile.harness.version ∧
    runtimeProbeMatches job.profile result.safeFacts)
    (·.withFailure executorUnavailableFailure (errors ++ [.text "harness probe failed"]))
  Task.update fun outcome => { outcome with
    runtimeIsolated := result.safeFacts.get? "isolated" = some "true"
    runtimeCertified := result.safeFacts.get? "certified" = some "true"
    harnessEvidence := ⟨job.adapter.id, job.adapter.version, job.adapter.version, true, 0⟩ }

/-- The tool probes of `executePrepared`; `index` counts the tools that were probed. -/
def probeTools (job : Job) : Nat → List Tool → Attempting Unit
  | _, [] => return ()
  | index, tool :: rest => do
    let command : SandboxCommand := ⟨tool.probe.executable, tool.probe.args, sandboxWorkspaceRoot, ∅⟩
    let ((result, errors), cleanup) ← job.fence.runProbe service job.workspace job.profile command (index + 1)
    let _ ← Task.demand (cleanup = []) (·.withCleanupFailure (errors ++ cleanup))
    let _ ← Task.demand (errors = [] ∧ probeSucceeded result tool.probe.outputContains)
      (·.withFailure executorUnavailableFailure (errors ++ [.text "required tool probe failed"]))
    Task.update fun outcome => { outcome with
      toolEvidence := outcome.toolEvidence ++ [⟨tool.name, tool.version, tool.version, true, index + 1⟩] }
    probeTools job (index + 1) rest

def stopIfLost : Attempting Unit := do
  let outcome ← Task.current
  Task.demand (outcome.ownershipLost = false) id

def Job.runner (job : Job) (purpose : Purpose) (sequence : Nat) : Runner where
  profile := job.profile
  attempt := executorAttempt job.fence purpose sequence
  workspace := job.workspace
  environment := sandboxEnvironment
  outputLimit := defaultOutputLimit

def inspectProfile (job : Job) (runner : Runner) (sequence : Nat) : Attempting Inspection :=
  if job.input.profile = "go" then job.fence.inspectGo service runner sequence job.input
  else job.fence.inspectGeneric service runner sequence job.input

def inspectRepository (job : Job) : Attempting Unit := do
  let tools := job.profile.tools.length
  let runner ← Task.expect (newRunner (job.runner .probe tools)) fun message =>
    (·.withFailure executorUnavailableFailure [.text message])
  let inspection ← inspectProfile service job runner tools
  Task.update fun outcome => { outcome with profile := inspection }
  let _ ← stopIfLost
  Task.update fun outcome => (outcome.withEvidence "preflight_fact_count"
    (toString inspection.facts.entries.length)).withEvidence "verification_command_count"
    (toString inspection.commands.length)

def mergeAgentEnvironment (command derived : Table String) : Except Errors (Table String) := do
  require (disjointKeys derived command) [.text "agent command environment collides with harness environment"]
  return derived.entries.foldl (fun merged entry => merged.put entry.1 entry.2) command

def agentRequest (job : Job) : Attempting SandboxRequest := do
  let outcome ← Task.current
  let prompt ← Task.expect (buildPrompt job.record job.input job.profile outcome.profile.facts) fun errors =>
    (·.withFailure (executeFailureOf .input false "agent prompt exceeds configured limit" "prompt_too_large") errors)
  let command ← Task.expect (job.adapter.agentCommandFor job.profile.runtime.kind prompt) fun errors =>
    (·.withFailure agentProtocolFailure errors)
  let environment ← Task.expect (mergeAgentEnvironment command.environment job.environment) fun errors =>
    (·.withFailure agentEnvironmentFailure errors)
  let request : SandboxRequest := {
    attempt := executorAttempt job.fence .agent 0
    profile := job.profile
    command := { command with environment }
    hostPath := job.workspace
    writable := true
    environment := sandboxEnvironment
    timeout := executeLease
    outputLimit := defaultOutputLimit }
  let _ ← Task.expect (validateDeclaration request) fun message =>
    (·.withFailure agentEnvironmentFailure [.text message])
  return request

/-- `cancelAndCleanupAgent`, and the end of the attempt. -/
def abortAgent (job : Job) (leases : List SecretLease) (errors : Errors) : Attempting Unit := do
  let cancelErrors ← job.fence.cancel service (executorAttempt job.fence .agent 0)
  let cleanupErrors ← job.fence.cleanupAgent service leases
  Task.stop (·.withFailure (if cleanupErrors = [] then canceledFailure "execute" else ambiguousAttemptFailure)
    (errors ++ cancelErrors ++ cleanupErrors))

def leaveAgent (job : Job) (leases : List SecretLease) : Attempting Unit := do
  let errors ← job.fence.cleanupAgent service leases
  Task.stop fun outcome => if errors = [] then outcome else
    { outcome with cleanupFailed := true, ownershipErrors := outcome.ownershipErrors ++ errors }

def hideAgent (job : Job) (leases : List SecretLease) : Attempting Unit := do
  let errors ← job.fence.cleanupAgent service leases
  Task.stop fun outcome => (outcome.withFailure secretDetectedFailure).withCleanupFailure errors

def agentFailure (execution : SandboxResult) (errors : Errors) : Option (Failure × Errors) :=
  if ambiguousAttempt errors then some (ambiguousAttemptFailure, errors)
  else if errors ≠ [] && execution.started then some (ambiguousAttemptFailure, errors)
  else if errors ≠ [] then
    some (executeFailureOf .agent true "agent execution was unavailable" "agent_unavailable", errors)
  else if !execution.started then
    some (executeFailureOf .agent true "agent did not start" "agent_unavailable", [.text "agent did not start"])
  else if !execution.completed then
    some (ambiguousAttemptFailure, [.text "agent response was incomplete after start"])
  else if execution.exitCode ≠ 0 then
    let diagnostic := "agent exited with code " ++ toString execution.exitCode
    some (executeFailureOf .agent false diagnostic "nonzero_exit", [.text diagnostic])
  else none

def judgeAgent (job : Job) (secrets : List Materialization) (errors : Errors) (outcome : Outcome) : Outcome :=
  if outcome.failure.isSome then outcome
  else match agentFailure outcome.execution errors with
    | some (failure, cause) => outcome.withFailure failure cause
    | none => match job.adapter.parse outcome.execution with
      | .error errors => outcome.withFailure agentProtocolFailure errors
      | .ok output =>
        if service.scan secrets output then
          Outcome.withFailure { outcome with agentOutput := output } secretDetectedFailure
            [.text "agent parser returned leased secret material"]
        else { outcome with agentOutput := output }

def judgeCapture (secrets : List Materialization) (canceled : Bool) (capture : Capture) (errors : Errors)
    (outcome : Outcome) : Outcome :=
  if errors ≠ [] && !outcome.ownershipLost then
    outcome.withFailure (captureFailure outcome.execution.completed) errors
  else if !detectSecretMaterial service canceled secrets capture then
    outcome.withFailure secretDetectedFailure [.text "transient capture contains leased secret material"]
  else outcome

def captureTransient (job : Job) (secrets : List Materialization) (started : Bool) : Attempting Unit :=
  if started then do
    let (capture, errors) ← job.fence.capture service job.workspace job.record.baseSHA
    let canceled ← consult .canceled
    Task.update (judgeCapture service secrets canceled capture errors)
  else return ()

def continuesAfterAgent (outcome : Outcome) : Bool :=
  outcome.failure.all fun failure => failure.failureClass ≠ .policy && outcome.execution.started &&
    !outcome.cleanupFailed && failure.causeCode ∉ ["ambiguous_attempt", "capture_failed", "cleanup_failed"]

def settleAgent (job : Job) (leases : List SecretLease) (errors : Errors) : Attempting Unit := do
  let secrets := leases.map (·.materialization)
  Task.update (judgeAgent service job secrets errors)
  let outcome ← Task.current
  let _ ← captureTransient service job secrets outcome.execution.started
  let cleanup ← job.fence.cleanupAgent service leases
  Task.update (·.withCleanupFailure cleanup)
  let _ ← stopIfLost
  let outcome ← Task.current
  Task.demand (continuesAfterAgent outcome) id

def showsSecret (secrets : List Materialization) (execution : SandboxResult) : Bool :=
  execution.secretDetected || service.scan secrets execution.stdout || service.scan secrets execution.stderr

/-- The agent of `executePrepared`, with its leases: the secrets that were leased. -/
def runAgent (job : Job) (request : SandboxRequest) (leases : List SecretLease) : Attempting Unit := do
  let secrets := leases.map (·.materialization)
  let (execution, errors) ← job.fence.execute service { request with secrets }
  Task.update fun outcome => { outcome with execution }
  let canceled ← consult .canceled
  let outcome ← Task.current
  if canceled || .canceled ∈ errors || .deadlineExceeded ∈ errors then
    abortAgent service job leases (errors ++ if canceled then [.canceled] else [])
  else if outcome.ownershipLost then leaveAgent service job leases
  else if showsSecret service secrets execution then hideAgent service job leases
  else settleAgent service job leases errors

def leaseSecrets (job : Job) : Attempting (List SecretLease) := do
  let acquired ← job.fence.acquire service job.profile.secrets (job.record.secretBindings.getD []) []
  let canceled ← consult .canceled
  Task.expect acquired fun errors => (·.withFailure (secretAcquisitionFailure canceled) errors)

def failedCheck (result : CheckResult) (outcome : Outcome) : Outcome :=
  match result.failureClass with
  | "canceled" => outcome.withFailure (canceledFailure "execute") [.canceled]
  | "cleanup" => outcome.withCleanupFailure [.text "verification sandbox cleanup failed"]
  | "environment" =>
    let diagnostic := "required verification environment is unavailable"
    outcome.withFailure (executeFailureOf .environment
      (!outcome.execution.completed && transientEnvironmentCause result.causeCode) diagnostic
      (safeCauseCode result.causeCode "verification_environment")) [.text diagnostic]
  | "internal" =>
    let diagnostic := "verification executor failed internally"
    outcome.withFailure (executeFailureOf .internal false diagnostic
      (safeCauseCode result.causeCode "verification_internal")) [.text diagnostic]
  | _ =>
    let diagnostic := "required verification command failed"
    outcome.withFailure (executeFailureOf .verification false diagnostic
      (safeCauseCode result.causeCode "verification_failed")) [.text diagnostic]

/-- What `runVerification` adds to its outcome for one check. -/
def judgeCheck (result : CheckResult) (outcome : Outcome) : Outcome :=
  let outcome := { outcome with verification := outcome.verification ++ [result] }
  if !result.command.required || result.passed || outcome.failure.isSome then outcome
  else failedCheck result outcome

/-- The outcome that `runVerification` returns before its last check. It works on a copy of the outcome, in which the
attempts and the loss of the stage that the executor records are missing. -/
def interrupted (entry : Outcome) (failure : Failure) (cause : Errors) (outcome : Outcome) : Outcome :=
  Outcome.withFailure { outcome with
    attemptEvidence := entry.attemptEvidence
    ownershipLost := entry.ownershipLost
    ownershipRecord := entry.ownershipRecord
    ownershipErrors := entry.ownershipErrors } failure cause

def unsafeDirectoryFailure : Failure :=
  executeFailureOf .internal false "verification command directory is unsafe" "verification_internal"

/-- The checks of `runVerification`; `sequence` is the number of the runner's last command, `index` the number of
checks before. The outcome that is returned early is the state. -/
def runChecks (job : Job) (secrets : List Materialization) (runner : Runner) (entry : Outcome) :
    Nat → Nat → List Check → Attempting Unit
  | _, _, [] => return ()
  | sequence, index, original :: rest =>
    match durableDirectory job.workspace original.directory with
    | .error message => Task.update (interrupted entry unsafeDirectoryFailure [.text message])
    | .ok directory => do
      let (result, sequence) ← runner.run (job.fence.execute service) (job.fence.destroy service) sequence
        { original with directory }
      let outcome ← Task.current
      let environmentKeys := outcome.commandEnvironmentKeys (executorAttempt job.fence .verification (index + 1))
      let result := { result with command := { result.command with environmentKeys } }
      if service.scan secrets result.output then
        Task.update fun outcome => interrupted entry secretDetectedFailure
          [.text "verification output contains leased secret material"]
          { outcome with verification := outcome.verification ++ [result] }
      else do
        Task.update (judgeCheck result)
        runChecks job secrets runner entry sequence (index + 1) rest

def runVerification (job : Job) (secrets : List Materialization) : Attempting Unit := do
  match newRunner (job.runner .verification 0) with
  | .error message => Task.update (·.withFailure executorUnavailableFailure [.text message])
  | .ok runner => do
    let entry ← Task.current
    runChecks service job secrets runner entry 0 0 entry.profile.commands

def verify (job : Job) (secrets : List Materialization) : Attempting Unit := do
  let outcome ← Task.current
  if outcome.failure.isNone then do
    let _ ← runVerification service job secrets
    let outcome ← Task.current
    Task.demand (outcome.ownershipLost = false ∧ ¬ outcome.failure.any (·.failureClass = .canceled)) id
  else return ()

def captureChanges (job : Job) (secrets : List Materialization) : Attempting Unit := do
  let (capture, errors) ← job.fence.capture service job.workspace job.record.baseSHA
  Task.update fun outcome => { outcome with capture }
  let _ ← stopIfLost
  let _ ← Task.demand (errors = []) fun outcome =>
    outcome.withFailure (captureFailure outcome.execution.completed) errors
  let canceled ← consult .canceled
  let _ ← Task.demand (detectSecretMaterial service canceled secrets capture)
    (·.withFailure secretDetectedFailure [.text "captured changes contain leased secret material"])
  let _ ← Task.expect (validateCapturedEvidence job.workspace capture) fun message =>
    (·.withFailure (executeFailureOf .policy false "captured changes contain unsafe path evidence"
      "unsafe_capture_path") [.text message])
  let decision ← consult (.evaluate capture)
  let (record, owned, errors) ← Task.call (checkExecuteOwnership service job.fence)
  let _ ← Task.demand (owned ∧ errors = []) (·.withOwnershipLost record errors)
  let canceled ← consult .canceled
  let _ ← Task.demand (canceled = false) (·.withFailure (canceledFailure "execute") [.canceled])
  let diagnostic := "captured changes were denied by policy"
  Task.demand (decision.allowed = true) fun outcome =>
    (outcome.withEvidence "policy_findings" decision.findings).withFailure
      (executeFailureOf .policy false diagnostic "change_policy_denied") [.text diagnostic]

/-- Go on with a saved record; an attempt that lost its stage says so, any other error is a failure. -/
def persisted (result : Except Errors CodeRun) (failure : Failure) : Attempting Unit :=
  match result with
  | .ok _ => return ()
  | .error errors => Task.stop fun outcome =>
    if .phaseInProgress ∈ errors then outcome.withOwnershipLost none errors else outcome.withFailure failure errors

def artifactFailure (diagnostic causeCode : String) : Failure := executeFailureOf .internal false diagnostic causeCode

def artifactNotSaved (canceled : Bool) (errors : Errors) (outcome : Outcome) : Outcome :=
  if canceled || .canceled ∈ errors then outcome.withFailure (canceledFailure "execute") errors
  else outcome.withFailure (executeFailureOf .internal (!outcome.execution.completed) "persist artifact failed"
    "artifact_store") errors

def storeArtifact (job : Job) : Attempting Unit := do
  let outcome ← Task.current
  let bundle ← Task.expect (buildBundle job.record job.profile outcome) fun message =>
    (·.withFailure (artifactFailure "build artifact evidence failed" "artifact_encoding") [.text message])
  let expected ← Task.expect (referenceFor bundle) fun message =>
    (·.withFailure (artifactFailure "build artifact reference failed" "artifact_encoding") [.text message])
  let leased ← Task.call (mutateRecord service job.record.id (.acquireWrite job.fence.ownership expected))
  let _ ← persisted leased (artifactFailure "acquire artifact write lease failed" "artifact_lease")
  let saved ← consult (.saveArtifact bundle)
  let canceled ← consult .canceled
  let reference ← Task.expect saved (artifactNotSaved canceled)
  let _ ← Task.demand (reference = expected)
    (·.withFailure (artifactFailure "artifact store returned an unexpected reference" "artifact_store")
      [.text "artifact store returned an unexpected reference"])
  let checkpoint ← Task.call (mutateRecord service job.record.id
    (.checkpointArtifact job.fence.ownership reference))
  let _ ← persisted checkpoint (artifactFailure "checkpoint artifact reference failed" "artifact_checkpoint")
  let canceled ← consult .canceled
  Task.update fun outcome => Outcome.withCancellation ((((outcome.withEvidence "artifact_digest"
    reference.digest).withEvidence "artifact_size" (toString reference.size)).withEvidence "tree_sha"
    outcome.capture.treeSHA).withArtifact reference) canceled

def executePrepared (record : CodeRun) (input : Input) (workspace : String) (ownership : Ownership) :
    Attempting Unit := do
  let job ← openAttempt service record input workspace ownership
  let _ ← probeHarness service job
  let _ ← probeTools service job 0 job.profile.tools
  let _ ← stopIfLost
  let _ ← inspectRepository service job
  let request ← agentRequest job
  let leases ← leaseSecrets service job
  let _ ← runAgent service job request leases
  let secrets := leases.map (·.materialization)
  let _ ← verify service job secrets
  let _ ← captureChanges service job secrets
  storeArtifact service job

/-! ### Starting or taking over an attempt -/

/-- A record with whether this call started an attempt, or an error with the record it is about. -/
abbrev Begun := Except (Option CodeRun × Errors) (CodeRun × Bool)

def failRecovered (runID : String) (ownership : Ownership) (failure : Failure) (cause : Errors) : Phase Begun := do
  match ← mutateRecord service runID (.failRecovered ownership failure) with
  | .error errors => return .error (none, errors)
  | .ok record => return .error (some record, .phase failure :: cause)

/-- `checkExecuteIdentity`: the record, and whether it has this attempt as its running one. -/
def checkExecuteIdentity (runID : String) (ownership : Ownership) : Phase (Option CodeRun × Bool × Errors) := do
  match ← loadBound service runID with
  | .error (record, errors) => return (record, false, errors)
  | .ok (record, _) => return (some record, exactStageIdentity record ownership, [])

def compensateAmbiguous (runID : String) (ownership : Ownership) (cause : Errors) : Phase Begun := do
  let attempt := executorAttempt ⟨runID, ownership⟩ .agent 0
  let (before, owned, errors) ← checkExecuteIdentity service runID ownership
  if !owned then return .error (before, .phaseInProgress :: errors)
  else do
    let cancelErrors ← ask (.cancel attempt)
    let (_, between, betweenErrors) ← checkExecuteIdentity service runID ownership
    let destroyErrors ← ask (.destroy attempt)
    let (record, after, afterErrors) ← checkExecuteIdentity service runID ownership
    if !between || !after then
      return .error (record, .phaseInProgress :: cause ++ cancelErrors ++ destroyErrors ++ betweenErrors ++ afterErrors)
    else if cancelErrors ++ destroyErrors ≠ [] then
      failRecovered service runID ownership cleanupFailure (cause ++ cancelErrors ++ destroyErrors)
    else failRecovered service runID ownership ambiguousAttemptFailure cause

def recovered (result : Except Errors CodeRun) : Begun :=
  match result with
  | .error errors => .error (none, errors)
  | .ok record => .ok (record, false)

def begun (result : Except Errors (CodeRun × Bool)) : Begun :=
  match result with
  | .error errors => .error (none, errors)
  | .ok result => .ok result

/-- `beginExecuteStage`, with `tries` attempts left. -/
def beginExecuteStage (runID : String) : Nat → Phase Begun
  | 0 => return .error (none, [.text "recover execute after 3 ownership races", .run (.versionConflict "")])
  | tries + 1 => do
    match ← loadBound service runID with
    | .error error => return .error error
    | .ok (record, _) =>
      if record.terminal then return .ok (record, false)
      else match latestStage record.stages "execute" with
        | none => return begun (← beginAttempt service runID "execute" .executing)
        | some latest =>
          if latest.status ≠ .running then return begun (← beginAttempt service runID "execute" .executing)
          else do
            let readings ← ask .readings
            let ownership := ownershipOf latest
            if !stageExpired latest readings.expiry executeLease ||
                activeArtifactWriteLease record ownership readings.lease then
              return .ok (record, false)
            else if record.artifact.isSome then
              return recovered (← mutateRecord service runID (.completeCheckpointed ownership))
            else match record.workerProfile with
              | none => return .error (some record, [.text "recover execute: resolved worker profile is missing"])
              | some profile => match resolveExecutor service profile with
                | .error errors => failRecovered service runID ownership ambiguousAttemptFailure errors
                | .ok _ => do
                  let attempt := executorAttempt ⟨runID, ownership⟩ .agent 0
                  let (state, inspectErrors) ← ask (.inspect attempt)
                  let (owner, owned, errors) ← checkExecuteIdentity service runID ownership
                  if errors ≠ [] then return .error (owner, errors)
                  else if !owned then beginExecuteStage runID tries
                  else if inspectErrors ≠ [] || (state ≠ .absent && state ≠ .resourceCreated) ||
                      latest.evidence.get? "agent_started" = some "true" then
                    compensateAmbiguous service runID ownership (if inspectErrors ≠ [] then inspectErrors else
                      [.text "prior agent attempt may have started"])
                  else do
                    let destroyErrors ← ask (.destroy attempt)
                    if destroyErrors ≠ [] then
                      failRecovered service runID ownership ambiguousAttemptFailure destroyErrors
                    else return begun (← mutate service runID (.retryNonStart ownership))

def finishOwnershipLost (runID : String) (outcome : Outcome) (cleanup : Errors) : Phase Returned := do
  let loaded ← ask (.load runID)
  let (record, loadErrors) : Option CodeRun × Errors := match loaded with
    | .ok record => (some record, [])
    | .error errors => (outcome.ownershipRecord, errors)
  let cause := outcome.ownershipErrors ++ cleanup ++ loadErrors
  match record.bind fun record => if record.terminal then record.failure else none with
  | some failure => return (resultOf record, .phase failure :: .text failure.diagnostic :: cause)
  | none => return ((phaseInProgress record).1, .phaseInProgress :: cause)

/-- The outcome and the failure that an attempt of `finishExecute` would save, and its mutation. -/
def chooseOutcome (ownership : Ownership) (state : Outcome × Option Failure) (readings : Readings)
    (current : CodeRun) : (Outcome × Option Failure) × Mutation :=
  let outcome := state.1.withCancellation readings.canceled
  let reached := ownsOutcome ownership outcome readings current &&
    succeeds (scrubTable outcome.workspace outcome.evidence) fun _ => true
  ((outcome, if reached && outcome.failure.isSome then outcome.failure else state.2),
    .finishExecute ownership outcome)

section

variable (runID : String)

/-- The end of `finishExecute`. -/
def reportOutcome (outcome : Outcome) (record : Option CodeRun) (errors : Errors) : Phase Returned :=
  if .phaseInProgress ∈ errors then
    finishOwnershipLost runID (outcome.withOwnershipLost record errors) []
  else match outcome.failure with
    | none => return (resultOf record, errors)
    | some failure => return (resultOf record, .phase failure :: outcome.cause ++ errors)

/-- The cancellation of `finishExecute` after its outcome was saved: the record and the errors that are left. -/
def cancelLate (ownership : Ownership) (persisted : Option Failure) (record : Option CodeRun)
    (errors : Errors) : Phase (Option CodeRun × Errors) := do
  match ← mutateRecord service runID (.lateCancellation ownership persisted) with
  | .ok canceled => return (some canceled, errors)
  | .error lateErrors =>
    if record.isSome then return (record, errors ++ lateErrors)
    else match ← ask (.load runID) with
      | .ok loaded => return (some loaded, errors ++ lateErrors)
      | .error loadErrors => return (none, errors ++ lateErrors ++ loadErrors)

/-- `finishExecute`. -/
def saveOutcome (ownership : Ownership) (outcome : Outcome) : Phase Returned := do
  let canceled ← ask .canceled
  let outcome := outcome.normalizeCleanupFailure.withCancellation canceled
  let ((outcome, persisted), result) ←
    mutateFrom service runID (chooseOutcome ownership) maxCASAttempts [] (outcome, none)
  let canceled ← ask .canceled
  let outcome := outcome.withCancellation canceled
  let (record, errors) : Option CodeRun × Errors := match result with
    | .ok (record, _) => (some record, [])
    | .error errors => (none, errors)
  if canceled && !outcome.cleanupFailed && outcome.failure.all fun failure =>
      failure.causeCode ≠ "ambiguous_attempt" && failure.failureClass ≠ .cleanup then do
    let (record, errors) ← cancelLate service runID ownership persisted record errors
    reportOutcome runID outcome record errors
  else reportOutcome runID outcome record errors

def loadExecutable : Phase (Except (Option CodeRun × Errors) (CodeRun × Input)) := do
  match ← loadBound service runID with
  | .error error => return .error error
  | .ok (record, input) =>
    if record.terminal then return .ok (record, input)
    else if record.status ≠ .executing || blank record.baseSHA then
      return .error (some record, [.text "execute code change: run is not resolved"])
    else return .ok (record, input)

def executeIn (record : CodeRun) (input : Input) (ownership : Ownership) (workspace : String) :
    Phase Returned := do
  let (_, outcome) ← (executePrepared service record input workspace ownership).start { workspace }
  let canceled ← ask .canceled
  let outcome := outcome.withCancellation canceled
  let cleanup ← ask (.cleanupWorkspace workspace)
  let outcome := outcome.withCleanupFailure cleanup
  let canceled ← ask .canceled
  let outcome := outcome.withCancellation canceled
  if outcome.ownershipLost then finishOwnershipLost runID outcome cleanup
  else saveOutcome service runID ownership outcome

/-- `Execute` from its started attempt on. -/
def executeStarted (record : CodeRun) (input : Input) : Phase Returned := do
  match ownershipFor record "execute" with
  | .error errors => return (phaseResult record, errors)
  | .ok ownership =>
    match ← ask (.prepareWorkspace record.repositoryURI record.baseSHA) with
    | .error errors => do
      let canceled ← ask .canceled
      failStage service runID ownership (classifyWorkspaceFailure canceled errors) errors none
    | .ok workspace => executeIn service runID record input ownership workspace

def execute : Phase Returned := do
  match ← loadExecutable service runID with
  | .error error => return refused error
  | .ok (record, input) =>
    if record.terminal then return (phaseResult record, [])
    else match ← beginExecuteStage service runID maxCASAttempts with
      | .error error => return refused error
      | .ok (record, started) =>
        if record.terminal then
          match record.failure.filter (·.causeCode = "ambiguous_attempt") with
          | some failure => return (phaseResult record, [.phase failure, .text failure.diagnostic])
          | none => return (phaseResult record, [])
        else if started then executeStarted service runID record input
        else if (latestStage record.stages "execute").any (·.status ≠ .running) && record.artifact.isSome then
          return (phaseResult record, [])
        else return phaseInProgress record

end

end Paje.CodeChange
