import Paje.CodeChange.Outcome

/-!
The updates that the phases make to a stored record: functions of the record that was loaded and of
the readings that the service takes meanwhile; `none` means that there is nothing to save.
-/

namespace Paje.CodeChange

open Text Run

variable [digests : Digests]

def cleanupTimeout : Int := 30 * second

def resolveLease : Int := 5 * minute

def executeLease : Int := 35 * minute

def artifactSaveTimeout : Int := 2 * minute

def artifactWriteLeaseDuration : Int := artifactSaveTimeout + 2 * cleanupTimeout

def leaseFor (stage : String) : Int := if stage = "execute" then executeLease else resolveLease

/-- What one call of a mutation reads, in the order of the readings: whether the caller has canceled, and the
clock for an expired stage, for an active write lease, for a finished stage, for a status change before the
next attempt, for a started attempt, for the record, and for a status change at the end. -/
structure Readings where
  canceled : Bool
  (expiry lease finished transition started updated closed : Time)

def stageExpired (stage : StageResult) (now : Time) (lease : Int) : Bool := stage.startedAt + lease ≤ now

def activeArtifactWriteLease (record : CodeRun) (ownership : Ownership) (now : Time) : Bool :=
  record.artifactWriteLease.any fun lease =>
    lease.attempt = ownership.attempt && lease.startedAt = ownership.startedAt && decide (now < lease.deadline)

def artifactWriteLeaseMatches (record : CodeRun) (ownership : Ownership) (reference : Reference) (now : Time) :
    Bool :=
  activeArtifactWriteLease record ownership now && record.artifactWriteLease.any (·.reference = reference)

/-- `finalizeOwnership`: the latest attempt of the stage is the owned one, and it runs. -/
def runningAttempt (record : CodeRun) (ownership : Ownership) : Bool :=
  (latestStage record.stages ownership.name).any fun latest =>
    latest.status = .running && latest.attempts = ownership.attempt && latest.startedAt = ownership.startedAt

def exactStageIdentity (record : CodeRun) (ownership : Ownership) : Bool :=
  !record.terminal && runningAttempt record ownership

def ownsCheckpointedArtifact (record : CodeRun) (ownership : Ownership) (reference : Reference) : Bool :=
  exactStageIdentity record ownership && record.artifact = some reference && record.artifactWriteLease = none

def ownsStage (readings : Readings) (record : CodeRun) (ownership : Ownership) : Bool :=
  exactStageIdentity record ownership && (decide (readings.expiry < ownership.startedAt + leaseFor ownership.name) ||
      activeArtifactWriteLease record ownership readings.lease)

def runningStageAttempt (record : CodeRun) (name : String) (attempt : Nat) : Bool :=
  (latestStage record.stages name).any fun latest => latest.attempts = attempt && latest.status = .running

def latestStageStart (record : CodeRun) (name : String) : Time :=
  let latest := record.stages.foldl (fun (found : Nat × Time) stage =>
    if stage.name = name ∧ found.1 ≤ stage.attempts then (stage.attempts, stage.startedAt) else found) (0, 0)
  if latest.2.IsZero then record.updatedAt else latest.2

def ownershipOf (stage : StageResult) : Ownership := ⟨stage.name, stage.attempts, stage.startedAt⟩

abbrev Update := Except Errors (Option CodeRun)

def unchanged : Update := .ok none

def inProgress : Update := .error [.phaseInProgress]

def liftRun {α : Type} (x : Except Run.Error α) : Except Errors α := relabel (fun error => [.run error]) x

def liftText {α : Type} (x : Except String α) : Except Errors α := relabel (fun message => [.text message]) x

def StageResult.failedWith (stage : StageResult) (failure : Failure) (now : Time) : StageResult :=
  { stage with status := .failed, finishedAt := now, failure := some failure }

def failedStatus (failure : Failure) : Status := if failure.failureClass = .canceled then .canceled else .failed

def withStage (record : CodeRun) (stage : StageResult) (now : Time) : Except Errors CodeRun := do
  let next ← liftRun (upsertStage record stage)
  return { next with updatedAt := now }

def closeUnlessRetryable (record : CodeRun) (failure : Failure) (now : Time) : Update :=
  if failure.retryable then .ok (some record)
  else some <$> liftRun (transition record (failedStatus failure) now)

def failLatest (record : CodeRun) (latest : StageResult) (failure : Failure) (finished closed : Time) : Update := do
  let next ← liftRun (upsertStage { record with failure := some failure, artifactWriteLease := none }
    (StageResult.failedWith latest failure finished))
  some <$> liftRun (transition next .failed closed)

def lostWorkerFailure (name : String) : Failure :=
  ⟨name, .internal, true, "worker lease expired before resolve completed", "worker_lost"⟩

def ambiguousFailure (name : String) : Failure :=
  ⟨name, .internal, false, "running attempt outcome is ambiguous", "ambiguous_attempt"⟩

def enterStatus (record : CodeRun) (status : Status) (now : Time) : Except Errors CodeRun :=
  if record.status = status then .ok record else liftRun (transition record status now)

def startStage (name : String) (status : Status) (readings : Readings) (next : CodeRun) : Update :=
  if name = "execute" && next.artifact.isSome then unchanged
  else do
    let next ← enterStatus next status readings.transition
    some <$> withStage { next with failure := none }
      { name, status := .running, startedAt := readings.started, attempts := stageAttempt next.stages name + 1 }
      readings.updated

def beginStage (name : String) (status : Status) (readings : Readings) (current : CodeRun) : Update :=
  if current.terminal || (name = "resolve" && current.baseSHA ≠ "") then unchanged
  else match latestStage current.stages name with
    | none => startStage name status readings current
    | some latest =>
      if latest.status ≠ .running then startStage name status readings current
      else if !stageExpired latest readings.expiry (leaseFor name) ||
          (name = "execute" && activeArtifactWriteLease current (ownershipOf latest) readings.lease) then
        unchanged
      else if name = "execute" then
        failLatest current latest (ambiguousFailure name) readings.finished readings.transition
      else do
        let next ← liftRun (upsertStage current
          (StageResult.failedWith latest (lostWorkerFailure name) readings.finished))
        startStage name status readings next

/-- `finishFailure`; without an expected attempt the latest one is failed, whichever it is. -/
def finishFailure (failure : Failure) (expected : Option Nat) (readings : Readings) (current : CodeRun) : Update :=
  if current.terminal || expected.any (!runningStageAttempt current failure.stage ·) then unchanged
  else do
    let next ← withStage { current with failure := some failure }
      { name := failure.stage
        status := .failed
        startedAt := latestStageStart current failure.stage
        finishedAt := readings.finished
        attempts := stageAttempt current.stages failure.stage
        failure := some failure } readings.updated
    closeUnlessRetryable next failure readings.closed

def compensateOwnedCancellation (ownership : Ownership) (readings : Readings) (current : CodeRun) : Update :=
  if !exactStageIdentity current ownership then unchanged
  else do
    let failure := canceledFailure ownership.name
    let next ← withStage { current with failure := some failure }
      { name := ownership.name
        status := .failed
        startedAt := ownership.startedAt
        finishedAt := readings.finished
        attempts := ownership.attempt
        failure := some failure } readings.updated
    some <$> liftRun (transition next .canceled readings.closed)

def exhaustedFailure (failure : Failure) : Failure :=
  { failure with retryable := false, causeCode := "retries_exhausted" }

/-- The update of `Exhaust` for a stage other than finalize. -/
def exhaustStage (stage : String) (readings : Readings) (current : CodeRun) : Update :=
  let noFailure : Update := .error [.text ("exhaust stage \"" ++ stage ++ "\": no retryable failure")]
  if current.terminal then unchanged
  else match latestStage current.stages stage with
    | none => noFailure
    | some latest =>
      if latest.status = .running then
        if !stageExpired latest readings.expiry (leaseFor stage) ||
            (stage = "execute" && activeArtifactWriteLease current (ownershipOf latest) readings.lease) then
          unchanged
        else failLatest current latest (ambiguousFailure stage) readings.finished readings.transition
      else match latest.failure with
        | none => noFailure
        | some failure =>
          if failure.retryable && current.failure.any (·.stage = stage) then do
            let exhausted := exhaustedFailure failure
            let next ← liftRun (upsertStage { current with failure := some exhausted }
              { latest with failure := some exhausted })
            some <$> liftRun (transition next .failed readings.transition)
          else noFailure

def persistResolvedWorker (attempt : Nat) (profile : Profile) (bindings : List BindingRef) (readings : Readings)
    (current : CodeRun) : Update :=
  if current.workerProfile.isSome || current.terminal || !runningStageAttempt current "resolve" attempt then
    unchanged
  else .ok (some { current with
    workerProfile := some profile
    secretBindings := if bindings = [] then none else some bindings
    updatedAt := readings.updated })

def finishResolve (attempt : Nat) (sha : String) (memories : List Memory) (profile : Profile) (bindings : Nat)
    (readings : Readings) (current : CodeRun) : Update :=
  if current.baseSHA ≠ "" || current.terminal || !runningStageAttempt current "resolve" attempt then unchanged
  else do
    let next ← liftRun (upsertStage { current with
        baseSHA := sha
        memorySnapshot := some memories
        failure := none }
      { name := "resolve"
        status := .succeeded
        startedAt := latestStageStart current "resolve"
        finishedAt := readings.finished
        attempts := stageAttempt current.stages "resolve"
        evidence := table [("base_sha", sha), ("memory_count", toString memories.length),
          ("worker_profile", profile.id.text), ("worker_profile_digest", profile.digest),
          ("secret_binding_count", toString bindings)] })
    some <$> liftRun (transition next .executing readings.transition)

def completeCheckpointedExecute (ownership : Ownership) (readings : Readings) (current : CodeRun) : Update :=
  if !exactStageIdentity current ownership || current.artifact.isNone then inProgress
  else match latestStage current.stages "execute" with
    | none => inProgress
    | some latest => some <$> withStage { current with failure := none, artifactWriteLease := none }
        { latest with status := .succeeded, finishedAt := readings.finished, failure := none } readings.updated

def failRecoveredExecute (ownership : Ownership) (failure : Failure) (readings : Readings) (current : CodeRun) :
    Update :=
  if !exactStageIdentity current ownership then inProgress
  else match latestStage current.stages "execute" with
    | none => inProgress
    | some latest => failLatest current latest failure readings.finished readings.transition

def lostBeforeStartFailure : Failure :=
  executeFailureOf .internal true "worker was lost before the agent started" "worker_lost_before_start"

def retryConclusiveNonStart (ownership : Ownership) (readings : Readings) (current : CodeRun) : Update :=
  if !exactStageIdentity current ownership then inProgress
  else match latestStage current.stages "execute" with
    | none => inProgress
    | some latest =>
      if !stageExpired latest readings.expiry executeLease then inProgress
      else do
        let next ← liftRun (upsertStage current
          (StageResult.failedWith latest lostBeforeStartFailure readings.finished))
        some <$> withStage { next with failure := none }
          { name := "execute"
            status := .running
            startedAt := readings.started
            attempts := latest.attempts + 1 } readings.updated

/-- Set the keys of an evidence map whose flag holds and which are not set yet. -/
def withFlags (evidence : Table String) (flags : List (String × Bool)) : Table String :=
  flags.foldl (fun t flag => if flag.2 && t.get? flag.1 ≠ some "true" then t.put flag.1 "true" else t) evidence

section

variable (ownership : Ownership)

def checkpointAgentLifecycle (result : SandboxResult) (readings : Readings) (current : CodeRun) : Update :=
  if !exactStageIdentity current ownership then inProgress
  else match latestStage current.stages "execute" with
    | none => inProgress
    | some latest =>
      let evidence := withFlags latest.evidence [("agent_created", result.created),
        ("agent_started", result.started), ("agent_completed", result.completed)]
      if evidence = latest.evidence then unchanged
      else some <$> withStage current { latest with evidence } readings.updated

def acquireArtifactWrite (reference : Reference) (readings : Readings) (current : CodeRun) : Update :=
  if !ownsStage readings current ownership || current.artifact.isSome then inProgress
  else
    let deadline := readings.updated + artifactWriteLeaseDuration
    let next := { current with
      artifactWriteLease := some ⟨ownership.attempt, ownership.startedAt, deadline, reference⟩
      updatedAt := readings.updated }
    match current.artifactWriteLease with
    | none => .ok (some next)
    | some lease =>
      if !artifactWriteLeaseMatches current ownership reference readings.updated then inProgress
      else if deadline ≤ lease.deadline then unchanged
      else .ok (some next)

def checkpointArtifact (reference : Reference) (readings : Readings) (current : CodeRun) : Update :=
  if current.terminal || !artifactWriteLeaseMatches current ownership reference readings.lease then inProgress
  else .ok (some { current with
    artifact := some reference
    artifactWriteLease := none
    updatedAt := readings.updated })

def ownsOutcome (outcome : Outcome) (readings : Readings) (current : CodeRun) : Bool :=
  match outcome.artifact with
  | some reference => ownsCheckpointedArtifact current ownership reference
  | none => ownsStage readings current ownership

def finishExecute (outcome : Outcome) (readings : Readings) (current : CodeRun) : Update :=
  if !ownsOutcome ownership outcome readings current then inProgress
  else do
    let evidence ← liftText (scrubTable outcome.workspace outcome.evidence)
    let next ← withStage { current with
        artifact := if outcome.artifact.isSome then outcome.artifact else current.artifact
        failure := outcome.failure
        artifactWriteLease := none }
      { name := "execute"
        status := if outcome.failure.isSome then .failed else .succeeded
        startedAt := latestStageStart current "execute"
        finishedAt := readings.finished
        attempts := stageAttempt current.stages "execute"
        evidence
        failure := outcome.failure } readings.updated
    match outcome.failure with
    | none => .ok (some next)
    | some failure => closeUnlessRetryable next failure readings.closed

end

def advanced (current : CodeRun) (now : Time) : Time :=
  if current.updatedAt < now then now else current.updatedAt + 1

def persistLateCancellation (ownership : Ownership) (persisted : Option Failure) (readings : Readings)
    (current : CodeRun) : Update :=
  if current.status = .canceled then unchanged
  else if current.status = .failed then
    if persisted.isNone || current.failure ≠ persisted then inProgress
    else some <$> liftRun (compensateExecuteCancellation current ownership.attempt ownership.startedAt
      (advanced current readings.updated))
  else if current.terminal then .error [.text "persist late cancellation: run is already terminal"]
  else match latestStage current.stages "execute" with
    | none => inProgress
    | some latest =>
      if latest.attempts ≠ ownership.attempt || latest.startedAt ≠ ownership.startedAt then inProgress
      else do
        let failure := canceledFailure "execute"
        let now := readings.updated
        let stage : StageResult := if latest.status = .running then StageResult.failedWith latest failure now else
          { name := "execute"
            status := .failed
            startedAt := now
            finishedAt := now
            attempts := stageAttempt current.stages "execute" + 1
            failure := some failure }
        let next ← withStage current stage now
        some <$> liftRun (transition { next with failure := some failure } .canceled now)

variable (service : Service)

def persistApproval (ownership : Ownership) (request : ApprovalRequest) (decision : Decision) (readings : Readings)
    (current : CodeRun) : Update :=
  if current.terminal then unchanged
  else if !ownsStage readings current ownership then inProgress
  else do
    let input ← validateRunBinding service current
    match current.artifact with
    | none => bindingFault "approval artifact disappeared"
    | some reference => do
      require (sameApprovalRequestBinding request (approvalBindingEvidence current input reference))
        [.runBinding "approval request changed"]
      match current.approval with
      | some held => do
        require (held = decision) [.runBinding "approval decision conflict"]
        unchanged
      | none => do
        let next ← withStage { current with approval := some decision }
          { name := "approval"
            status := .succeeded
            startedAt := ownership.startedAt
            finishedAt := readings.finished
            attempts := ownership.attempt
            evidence := approvalEvidence request } readings.updated
        if decision.approved then .ok (some next)
        else some <$> liftRun (transition next .declined readings.closed)

def skipStage (name : String) (readings : Readings) (current : CodeRun) : Update := do
  let _ ← validateRunBinding service current
  let skip : Update := some <$> withStage current
    { name
      status := .skipped
      startedAt := readings.updated
      finishedAt := readings.updated
      attempts := stageAttempt current.stages name + 1
      evidence := table [("publication_mode", "artifact")] } readings.updated
  if current.terminal then unchanged
  else match latestStage current.stages name with
    | none => skip
    | some latest => match latest.status with
      | .skipped => unchanged
      | .running => inProgress
      | _ => skip

def persistPublication (ownership : Ownership) (request : PublisherRequest) (bundle : Bundle) (result : Publication)
    (readings : Readings) (current : CodeRun) : Update :=
  if current.terminal then unchanged
  else if !ownsStage readings current ownership then inProgress
  else do
    let input ← validateRunBinding service current
    require (buildPublisherRequestWithBundle current input bundle = .ok request)
      [.runBinding "publication request changed"]
    match current.publication with
    | some held => do
      require (held = result) [.runBinding "publication result conflict"]
      unchanged
    | none =>
      some <$> withStage { current with publication := some result }
        { name := "publish"
          status := .succeeded
          startedAt := ownership.startedAt
          finishedAt := readings.finished
          attempts := ownership.attempt
          evidence := publicationEvidence request result } readings.updated

def publishBindingFailure : Failure :=
  ⟨"publish", .publication, false, "publication approval binding is invalid", "publication_binding_mismatch"⟩

def publishApprovalPreconditionFailure : Failure :=
  ⟨"approval", .approval, false, "publication requires an approved decision", "publication_requires_approval"⟩

/-- The update of `recordPublishApprovalPreconditionFailure`. -/
def failMissingApproval (readings : Readings) (current : CodeRun) : Update :=
  if current.terminal then unchanged
  else if current.approval.isSome || current.stages.any (·.name = "approval") then
    bindingFault "approval state changed before publication precondition failure"
  else if current.status ≠ .executing then
    bindingFault ("publication approval precondition has status \"" ++ current.status.text ++ "\"")
  else do
    let failure := publishApprovalPreconditionFailure
    let next ← withStage { current with failure := some failure }
      { name := "approval"
        status := .failed
        startedAt := readings.updated
        finishedAt := readings.updated
        attempts := 1
        failure := some failure } readings.updated
    some <$> liftRun (transition next .failed readings.updated)

def failPublishBeforeTransition (failure : Failure) (readings : Readings) (current : CodeRun) : Update :=
  if current.terminal then unchanged
  else do
    let next ← withStage { current with failure := some failure }
      { name := "publish"
        status := .failed
        startedAt := readings.updated
        finishedAt := readings.updated
        attempts := stageAttempt current.stages "publish" + 1
        failure := some failure } readings.updated
    some <$> liftRun (transition next .failed readings.updated)

def finalizable (record : CodeRun) : Bool :=
  record.terminal || (record.artifact.isSome && match record.publicationMode with
    | .artifact => record.status = .executing
    | .pullRequest => record.status = .publishing && record.approval.any (·.approved) && record.publication.isSome)

def finalizeExhausted (record : CodeRun) : Bool :=
  (latestStage record.stages "finalize").any fun latest => latest.status = .failed &&
    latest.failure.any fun failure => !failure.retryable && failure.causeCode = "retries_exhausted"

def finalizeClosed (record : CodeRun) : Bool :=
  (latestStage record.stages "finalize").any fun latest => latest.status = .failed &&
    latest.failure.any (!·.retryable)

def finalizeMemoryFailure : Failure :=
  ⟨"finalize", .internal, true, "outcome_memory_failed", "outcome_memory_failed"⟩

def savedOutcome : Table String := table [("outcome_memory_saved", "true")]

/-- `nilIfFinalizeFailure`. -/
def dropFinalizeFailure (failure : Option Failure) : Option Failure := failure.filter (·.stage ≠ "finalize")

def beginFinalize (readings : Readings) (current : CodeRun) : Update := do
  let _ ← validateRunBinding service current
  if current.outcomeMemorySaved || finalizeClosed current then unchanged
  else if !finalizable current then
    .error [.text ("finalize run \"" ++ current.id ++ "\": status \"" ++ current.status.text ++ "\" is not ready")]
  else if (latestStage current.stages "finalize").any (·.status = .running) then unchanged
  else
    some <$> withStage { current with
        failure := if current.terminal then current.failure else dropFinalizeFailure current.failure }
      { name := "finalize"
        status := .running
        startedAt := readings.updated
        attempts := stageAttempt current.stages "finalize" + 1 } readings.updated

/-- The stage list of `finishSavedOutcome`. -/
def closeSavedFinalize (current : CodeRun) (now : Time) : Except Errors CodeRun :=
  let fresh : StageResult := {
    name := "finalize"
    status := .succeeded
    startedAt := now
    finishedAt := now
    attempts := stageAttempt current.stages "finalize" + 1
    evidence := savedOutcome }
  match latestStage current.stages "finalize" with
  | none => liftRun (upsertStage current fresh)
  | some latest => match latest.status with
    | .succeeded => .ok current
    | .running => liftRun (upsertStage current
        { latest with status := .succeeded, finishedAt := now, evidence := savedOutcome })
    | _ => liftRun (upsertStage current fresh)

def finishSavedOutcome (readings : Readings) (current : CodeRun) : Update :=
  if !current.outcomeMemorySaved then .error [.text "finish saved outcome: marker is missing"]
  else if current.terminal then unchanged
  else if !finalizable current then .error [.text "finish saved outcome: run is not ready"]
  else do
    let next ← closeSavedFinalize current readings.updated
    let next := { next with failure := dropFinalizeFailure next.failure, updatedAt := readings.updated }
    some <$> liftRun (transition next .succeeded readings.updated)

def finishFinalize (ownership : Ownership) (readings : Readings) (current : CodeRun) : Update :=
  if current.outcomeMemorySaved then unchanged
  else if !runningAttempt current ownership then inProgress
  else do
    let next ← withStage { current with
        outcomeMemorySaved := true
        failure := dropFinalizeFailure current.failure }
      { name := "finalize"
        status := .succeeded
        startedAt := ownership.startedAt
        finishedAt := readings.finished
        attempts := ownership.attempt
        evidence := savedOutcome } readings.updated
    if next.terminal then .ok (some next)
    else if next.publicationMode = .artifact && next.status = .executing ||
        next.publicationMode = .pullRequest && next.status = .publishing && next.approval.any (·.approved) &&
          next.publication.isSome then
      some <$> liftRun (transition next .succeeded readings.closed)
    else .error [.text ("finalize run \"" ++ next.id ++ "\": durable publication state is incomplete")]

def failFinalize (ownership : Ownership) (failure : Failure) (readings : Readings) (current : CodeRun) : Update :=
  if current.outcomeMemorySaved || finalizeExhausted current then unchanged
  else if !runningAttempt current ownership then inProgress
  else do
    let next ← withStage { current with failure := if current.terminal then current.failure else some failure }
      { name := "finalize"
        status := .failed
        startedAt := ownership.startedAt
        finishedAt := readings.finished
        attempts := ownership.attempt
        failure := some failure } readings.updated
    if next.terminal then .ok (some next) else closeUnlessRetryable next failure readings.closed

def exhaustFinalize (readings : Readings) (current : CodeRun) : Update :=
  let latest := latestStage current.stages "finalize"
  let retryable := latest.bind (·.failure) |>.filter (·.retryable)
  if current.outcomeMemorySaved || finalizeExhausted current then unchanged
  else if current.terminal && retryable.isNone then unchanged
  else match latest, retryable with
    | some latest, some failure =>
      if latest.status ≠ .failed then .error [.text "exhaust finalize: no retryable failure"]
      else do
        let exhausted := exhaustedFailure failure
        let next ← withStage current { latest with failure := some exhausted } readings.updated
        if current.terminal then .ok (some next)
        else some <$> liftRun (transition { next with failure := some exhausted } .failed readings.closed)
    | _, _ => .error [.text "exhaust finalize: no retryable failure"]

inductive Mutation where
  | begin (name : String) (status : Status)
  | finishFailure (ownership : Ownership) (failure : Failure) (expected : Option Nat)
  | compensate (ownership : Ownership)
  | exhaust (stage : String)
  | persistWorker (ownership : Ownership) (profile : Profile) (bindings : List BindingRef)
  | finishResolve (ownership : Ownership) (sha : String) (memories : List Memory) (profile : Profile)
      (bindings : Nat)
  | completeCheckpointed (ownership : Ownership)
  | failRecovered (ownership : Ownership) (failure : Failure)
  | retryNonStart (ownership : Ownership)
  | checkpointAgent (ownership : Ownership) (result : SandboxResult)
  | acquireWrite (ownership : Ownership) (reference : Reference)
  | checkpointArtifact (ownership : Ownership) (reference : Reference)
  | finishExecute (ownership : Ownership) (outcome : Outcome)
  | lateCancellation (ownership : Ownership) (persisted : Option Failure)
  | persistApproval (ownership : Ownership) (request : ApprovalRequest) (decision : Decision)
  | skip (name : String)
  | persistPublication (ownership : Ownership) (request : PublisherRequest) (bundle : Bundle)
      (result : Publication)
  | failMissingApproval
  | failBeforePublish (failure : Failure)
  | beginFinalize
  | finishSavedOutcome
  | finishFinalize (ownership : Ownership)
  | failFinalize (ownership : Ownership) (failure : Failure)
  | exhaustFinalize

def Mutation.apply : Mutation → Readings → CodeRun → Update
  | .begin name status => beginStage name status
  | .finishFailure _ failure expected => CodeChange.finishFailure failure expected
  | .compensate ownership => compensateOwnedCancellation ownership
  | .exhaust stage => exhaustStage stage
  | .persistWorker ownership profile bindings => persistResolvedWorker ownership.attempt profile bindings
  | .finishResolve ownership sha memories profile bindings =>
    CodeChange.finishResolve ownership.attempt sha memories profile bindings
  | .completeCheckpointed ownership => completeCheckpointedExecute ownership
  | .failRecovered ownership failure => failRecoveredExecute ownership failure
  | .retryNonStart ownership => retryConclusiveNonStart ownership
  | .checkpointAgent ownership result => checkpointAgentLifecycle ownership result
  | .acquireWrite ownership reference => acquireArtifactWrite ownership reference
  | .checkpointArtifact ownership reference => CodeChange.checkpointArtifact ownership reference
  | .finishExecute ownership outcome => CodeChange.finishExecute ownership outcome
  | .lateCancellation ownership persisted => persistLateCancellation ownership persisted
  | .persistApproval ownership request decision => CodeChange.persistApproval service ownership request decision
  | .skip name => skipStage service name
  | .persistPublication ownership request bundle result =>
    CodeChange.persistPublication service ownership request bundle result
  | .failMissingApproval => CodeChange.failMissingApproval
  | .failBeforePublish failure => failPublishBeforeTransition failure
  | .beginFinalize => CodeChange.beginFinalize service
  | .finishSavedOutcome => CodeChange.finishSavedOutcome
  | .finishFinalize ownership => CodeChange.finishFinalize ownership
  | .failFinalize ownership failure => CodeChange.failFinalize ownership failure
  | .exhaustFinalize => CodeChange.exhaustFinalize

/-- The attempt on whose behalf an update is made, if it is made for one. -/
def Mutation.owner : Mutation → Option Ownership
  | .finishFailure ownership _ _ | .compensate ownership | .persistWorker ownership _ _
  | .finishResolve ownership _ _ _ _
  | .completeCheckpointed ownership | .failRecovered ownership _ | .retryNonStart ownership
  | .checkpointAgent ownership _ | .acquireWrite ownership _ | .checkpointArtifact ownership _
  | .finishExecute ownership _ | .lateCancellation ownership _ | .persistApproval ownership _ _
  | .persistPublication ownership _ _ _ | .finishFinalize ownership | .failFinalize ownership _ => some ownership
  | .begin _ _ | .exhaust _ | .skip _ | .failMissingApproval | .failBeforePublish _ | .beginFinalize
  | .finishSavedOutcome | .exhaustFinalize => none

end Paje.CodeChange
