import Paje.Run.Profile

/-!
The state machine of a run: which records are valid, and which record may replace another one.
-/

namespace Paje.Run

open Text

variable {ι : Type}

def invalid {α : Type} (message : String) : Except Error α := .error (.invalidRecord message)

def validateFailure (failure : Failure) : Except Error Unit := do
  require (¬ blank failure.stage) (.invalidRecord "failure stage is required")
  require (¬ blank failure.causeCode) (.invalidRecord "failure cause code is required")
  require (failure.diagnostic = safeDiagnostic failure.diagnostic) (.invalidRecord "failure diagnostic is unsafe")

def validateStage (stage : StageResult) : Except Error Unit := do
  require (¬ blank stage.name) (.invalidRecord "stage name is required")
  require (0 < stage.attempts) (.invalidRecord "stage attempt must be positive")
  require (¬ stage.startedAt.IsZero) (.invalidRecord "stage start time is required")
  require (stage.status = .running → stage.finishedAt.IsZero) (.invalidRecord "running stage has finish time")
  require (stage.status ≠ .running → ¬ stage.finishedAt.IsZero)
    (.invalidRecord "finished stage lacks finish time")
  require (¬ stage.finishedAt.IsZero → stage.startedAt ≤ stage.finishedAt)
    (.invalidRecord "stage finish precedes start")
  match stage.failure with
  | none => return ()
  | some failure => validateFailure failure

def stageFinished (stage : StageResult) : Bool := stage.status ≠ .running && !decide stage.finishedAt.IsZero

section

variable (stages : List StageResult)

/-- The entry with the highest attempt number, the first one of equals. -/
def latestStage (name : String) : Option StageResult :=
  stages.foldl (fun latest stage =>
    if stage.name = name ∧ latest.all (·.attempts < stage.attempts) then some stage else latest) none

def stageAttempt (name : String) : Nat :=
  stages.foldl (fun attempt stage => if stage.name = name then max attempt stage.attempts else attempt) 0

/-- `nextByKey[stageKey(...)]`: the last entry with this name and attempt number. -/
def stageAt (name : String) (attempts : Nat) : Option StageResult :=
  (stages.filter fun stage => stage.name = name && stage.attempts = attempts).getLast?

def increasing : Prop :=
  stages.Pairwise fun previous stage => stage.name = previous.name → previous.attempts < stage.attempts

end

instance (stages : List StageResult) : Decidable (increasing stages) :=
  inferInstanceAs (Decidable (stages.Pairwise _))

/-- `stages` with the first entry of this name and attempt number replaced by `result`. -/
def replaceStage (result : StageResult) : List StageResult → List StageResult
  | [] => []
  | stage :: rest =>
    if stage.name = result.name ∧ stage.attempts = result.attempts then result :: rest
    else stage :: replaceStage result rest

section

variable (record : Record ι)

def upsertStage (result : StageResult) : Except Error (Record ι) := do
  validateStage result
  require (stageAttempt record.stages result.name ≤ result.attempts) (.invalidRecord "stage attempt moved backward")
  match record.stages.find? (fun stage => stage.name = result.name ∧ stage.attempts = result.attempts) with
  | some existing =>
    require (¬ (stageFinished existing ∧ ¬ stageFinished result))
      (.invalidRecord "finished stage cannot become unfinished")
    return { record with stages := replaceStage result record.stages }
  | none => return { record with stages := record.stages ++ [result] }

def validateArtifactWriteLease : Except Error Unit :=
  match record.artifactWriteLease with
  | none => return ()
  | some lease => do
    require (record.terminal = false) (.invalidRecord "terminal run retains artifact write lease")
    require (record.artifact = none) (.invalidRecord "checkpointed artifact retains write lease")
    require (0 < lease.attempt ∧ ¬ lease.startedAt.IsZero ∧ ¬ lease.deadline.IsZero ∧
      record.updatedAt < lease.deadline) (.invalidRecord "artifact write lease timing is invalid")
    require (lease.reference.runID = record.id ∧ 0 ≤ lease.reference.size ∧ validDigest lease.reference.digest)
      (.invalidRecord "artifact write lease reference is invalid")
    require (∃ latest ∈ latestStage record.stages "execute", latest.status = .running ∧
      latest.attempts = lease.attempt ∧ latest.startedAt = lease.startedAt)
      (.invalidRecord "artifact write lease differs from running execute attempt")

def resolvedProfileRequired : Bool :=
  record.baseSHA ≠ "" || record.status ∈ [.executing, .awaitingApproval, .publishing, .succeeded, .declined] ||
    record.stages.any fun stage => stage.name = "resolve" && stage.status = .succeeded

def validateResolvedProfile [ProfileSha] [document : Document ι] : Except Error Unit := do
  let input ← document.inputWorkerProfileID record.input
  match record.workerProfile with
  | none =>
    require (record.secretBindings = none) (.invalidRecord "secret bindings require a resolved worker profile")
    require (¬ (input.isSome ∧ resolvedProfileRequired record))
      (.invalidRecord "resolved run status requires a worker profile snapshot")
  | some profile =>
    require input.isSome (.invalidRecord "resolved worker profile lacks canonical input binding")
    require (record.status ≠ .pending) (.invalidRecord "pending run cannot contain resolved worker state")
    require profile.Exact (.invalidRecord "worker profile snapshot is not exact and canonical")
    require (some profile.id = input) (.invalidRecord "worker profile snapshot identity differs from input")
    let bindings := record.secretBindings.getD []
    require (bindings.length = profile.secrets.length)
      (.invalidRecord "secret bindings differ from declared capabilities")
    require (bindings = profile.secrets.map fun requirement =>
      ⟨requirement.capability, requirement.bindingRevision⟩)
      (.invalidRecord "secret binding differs from declared capability")
    require (bindings.map (·.capability)).Nodup (.invalidRecord "duplicate secret capability binding")

def validateStatus : Except Error Unit :=
  let approved := record.approval.any (·.approved)
  match record.status with
  | .pending | .resolving | .executing => return ()
  | .awaitingApproval => require record.artifact.isSome (.invalidRecord "awaiting approval requires artifact")
  | .publishing => do
    require record.artifact.isSome (.invalidRecord "publishing requires artifact")
    require (record.publicationMode = .pullRequest → approved)
      (.invalidRecord "publishing pull request requires approval")
  | .succeeded => do
    require record.artifact.isSome (.invalidRecord "successful run requires artifact")
    require record.outcomeMemorySaved (.invalidRecord "successful run requires saved outcome memory")
    require (record.publicationMode = .pullRequest → approved)
      (.invalidRecord "successful pull request run requires approved decision")
    require (record.publicationMode = .pullRequest → record.publication.isSome)
      (.invalidRecord "successful pull request run requires publication")
  | .failed | .canceled => require record.failure.isSome (.invalidRecord "failed or canceled run requires failure")
  | .declined => require (record.approval.any (!·.approved)) (.invalidRecord "declined run requires declined approval")

def validateEvidence : Except Error Unit := do
  require (record.artifact.all (·.runID = record.id)) (.invalidRecord "artifact run ID differs from record")
  validateArtifactWriteLease record

def validateDecisions : Except Error Unit := do
  require (record.approval.isSome → record.artifact.isSome) (.invalidRecord "approval requires artifact")
  require (∀ decision ∈ record.approval, ∀ reference ∈ record.artifact,
    decision.runID = record.id ∧ decision.artifactDigest = reference.digest)
    (.invalidRecord "approval binding differs from artifact")
  require (record.publication.isSome → record.artifact.isSome) (.invalidRecord "publication requires artifact")

def validateRunFailure : Except Error Unit := do
  match record.failure with
  | none => return ()
  | some failure =>
    validateFailure failure
    require (¬ (record.terminal ∧ failure.retryable)) (.invalidRecord "terminal run cannot be retryable")
  require (record.status = .canceled → ∃ failure ∈ record.failure,
    failure.failureClass = .canceled ∧ failure.retryable = false)
    (.invalidRecord "canceled run requires non-retryable canceled failure")

def validateIdentity : Except Error Unit := do
  require (validRunID record.id) (.invalidRecord "run ID is invalid")
  require (record.version ≠ 0) (.invalidRecord "version must be positive")
  require (¬ blank record.template.name ∧ 0 < record.template.version) (.invalidRecord "template is invalid")
  require (¬ blank record.inputHash) (.invalidRecord "input hash is required")
  require (¬ blank record.repositoryURI) (.invalidRecord "repository URI is required")
  require (¬ blank record.baseRef) (.invalidRecord "base ref is required")
  require (¬ record.createdAt.IsZero ∧ ¬ record.updatedAt.IsZero) (.invalidRecord "timestamps are required")
  require (record.createdAt ≤ record.updatedAt) (.invalidRecord "updated time precedes created time")

end

def validateStages (stages : List StageResult) : Except Error Unit := do
  stages.forM validateStage
  require (increasing stages) (.invalidRecord "stage attempts are not strictly increasing")

def validate [ProfileSha] [Document ι] (record : Record ι) : Except Error Unit := do
  validateIdentity record
  validateStages record.stages
  validateEvidence record
  validateResolvedProfile record
  validateDecisions record
  validateStatus record
  validateRunFailure record

def validateReservation (reservation : Reservation ι) : Except Error Unit := do
  require (validRunID reservation.newRunID) (.invalidRecord "run ID is invalid")
  require (¬ blank reservation.template.name ∧ 0 < reservation.template.version)
    (.invalidRecord "template is invalid")
  require (¬ blank reservation.inputHash) (.invalidRecord "input hash is required")
  require (¬ blank reservation.repositoryURI) (.invalidRecord "repository URI is required")
  require (¬ blank reservation.baseRef) (.invalidRecord "base ref is required")
  require (¬ reservation.createdAt.IsZero) (.invalidRecord "created time is required")

def newRecord [ProfileSha] [Document ι] (reservation : Reservation ι) : Except Error (Record ι) := do
  validateReservation reservation
  let record : Record ι := {
    id := reservation.newRunID
    version := 1
    template := reservation.template
    idempotencyKey := reservation.idempotencyKey
    inputHash := reservation.inputHash
    input := reservation.input
    status := .pending
    publicationMode := reservation.publicationMode
    repositoryURI := reservation.repositoryURI
    baseRef := reservation.baseRef
    createdAt := reservation.createdAt
    updatedAt := reservation.createdAt }
  validate record
  return record

def finalizeSucceeded (record : Record ι) : Bool :=
  record.stages.any fun stage => stage.name = "finalize" && stage.status = .succeeded

/-- The edge table of `validateEdge`; `record` is the record in its next status. -/
def legalEdge (current next : Status) (record : Record ι) : Bool :=
  if next = .failed || next = .canceled then !current.terminal
  else match current, next with
    | .pending, .resolving | .resolving, .executing | .executing, .awaitingApproval
    | .awaitingApproval, .publishing | .publishing, .succeeded | .awaitingApproval, .declined => true
    | .executing, .succeeded => record.publicationMode = .artifact && finalizeSucceeded record
    | _, _ => false

def validateEdge (current next : Status) (record : Record ι) : Except Error Unit :=
  require (legalEdge current next record)
    (.invalidTransition ("\"" ++ current.text ++ "\" to \"" ++ next.text ++ "\""))

def terminalStatusError (status : Status) : Error :=
  .invalidTransition ("terminal status \"" ++ status.text ++ "\" cannot change")

def transition [ProfileSha] [Document ι] (record : Record ι) (next : Status) (now : Time) :
    Except Error (Record ι) := do
  validate record
  require (record.terminal = false) (terminalStatusError record.status)
  require (¬ now.IsZero ∧ record.updatedAt ≤ now) (.invalidTransition "transition time is invalid")
  let moved := { record with status := next, updatedAt := now }
  validateEdge record.status next moved
  validate moved
  return moved

def sameImmutableIdentity [DecidableEq ι] (current next : Record ι) : Bool :=
  current.id = next.id && current.template = next.template && current.idempotencyKey = next.idempotencyKey &&
    current.inputHash = next.inputHash && current.input = next.input &&
    current.publicationMode = next.publicationMode && current.repositoryURI = next.repositoryURI &&
    current.baseRef = next.baseRef && current.createdAt = next.createdAt

def isRetryExhaustionFailure (current next : Failure) : Bool :=
  current.retryable && !next.retryable && next.causeCode = "retries_exhausted" &&
    next = { current with retryable := false, causeCode := "retries_exhausted" }

def isRetryExhaustion (current next : StageResult) : Bool :=
  match current.failure, next.failure with
  | some before, some after =>
    isRetryExhaustionFailure before after && { current with failure := none } = { next with failure := none }
  | _, _ => false

def stageIntroducedOrProgressed (current next : List StageResult) (candidate : StageResult) : Bool :=
  let priorMaximum := stageAttempt current candidate.name
  match stageAt current candidate.name candidate.attempts with
  | none => priorMaximum < candidate.attempts
  | some existing =>
    existing.attempts = priorMaximum && existing.status = .running && candidate.status ≠ .running &&
      !decide candidate.finishedAt.IsZero && candidate.startedAt = existing.startedAt &&
      next.find? (fun stage => stage.name = candidate.name ∧ stage.attempts = candidate.attempts) = some candidate

/-- `latestAttempt[stage.Name] != 0 && stage.Attempts <= latestAttempt[stage.Name]`, of a new entry. -/
def insertedIntoHistory (current : List StageResult) (stage : StageResult) : Bool :=
  stageAt current stage.name stage.attempts = none && stageAttempt current stage.name ≠ 0 &&
    stage.attempts ≤ stageAttempt current stage.name

/-- The entry that replaces `existing` keeps what is fixed of it. -/
def validateKeptStage (current next : List StageResult) (existing : StageResult) : Except Error Unit :=
  match stageAt next existing.name existing.attempts with
  | none => invalid "stage history cannot be removed"
  | some candidate => do
    require (stageFinished existing → existing = candidate ∨
      existing.attempts = stageAttempt current existing.name ∧ isRetryExhaustion existing candidate)
      (.invalidRecord "finished stage evidence is immutable")
    require (stageFinished existing = false → candidate.startedAt = existing.startedAt)
      (.invalidRecord "running stage identity is immutable")

def validateMonotonicStages (current next : List StageResult) : Except Error Unit := do
  require (∀ stage ∈ next, insertedIntoHistory current stage = false)
    (.invalidRecord "stage attempt was inserted into historical range")
  current.forM (validateKeptStage current next)

section

variable (current next : Record ι)

def failureFollows (before : Failure) (previous : StageResult) : Except Error Unit := do
  let stageName := (next.failure.map (·.stage)).getD before.stage
  match latestStage next.stages stageName with
  | none => invalid "failure change lacks a new stage attempt"
  | some latest =>
    require (stageName = before.stage → previous.attempts < latest.attempts)
      (.invalidRecord "failure changed without a newer stage attempt")
    require (latest.failure = next.failure ∧ stageIntroducedOrProgressed current.stages next.stages latest)
      (.invalidRecord (if next.failure = none then "cleared top-level failure differs from latest stage"
        else "top-level failure differs from latest stage"))

def validateMonotonicFailure : Except Error Unit :=
  if current.failure = next.failure then return ()
  else match current.failure, next.failure with
    | none, none => return ()
    | none, some after => require ((latestStage next.stages after.stage).any fun latest =>
        latest.failure = some after && stageIntroducedOrProgressed current.stages next.stages latest)
        (.invalidRecord "new top-level failure is not bound to latest stage attempt")
    | some before, after => do
      match latestStage current.stages before.stage with
      | none => invalid "top-level failure is not bound to latest stage attempt"
      | some previous =>
        require (previous.failure = some before)
          (.invalidRecord "top-level failure is not bound to latest stage attempt")
        if after.any (isRetryExhaustionFailure before) then
          require ((latestStage next.stages before.stage).any fun latest =>
            latest.attempts = previous.attempts && latest.failure = after && isRetryExhaustion previous latest)
            (.invalidRecord "retry exhaustion is not bound to latest stage attempt")
        else failureFollows current next before previous

def validateMonotonicEvidence : Except Error Unit := do
  require (current.workerProfile = none → next.workerProfile ≠ none → current.status = .resolving ∧
    ∃ before ∈ latestStage current.stages "resolve", ∃ after ∈ latestStage next.stages "resolve",
      before.status = .running ∧ after.status = .running ∧ before.attempts = after.attempts ∧
      before.startedAt = after.startedAt)
    (.invalidRecord "resolved worker profile attachment requires the active resolve attempt")
  require (current.baseSHA ≠ "" → next.baseSHA = current.baseSHA) (.invalidRecord "base SHA is write-once")
  require (current.workerProfile ≠ none → current.workerProfile = next.workerProfile ∧
    current.secretBindings = next.secretBindings)
    (.invalidRecord "resolved worker profile and bindings are write-once")
  require (current.baseSHA ≠ "" ∨ current.memorySnapshot ≠ none → current.memorySnapshot = next.memorySnapshot)
    (.invalidRecord "memory snapshot is write-once")
  require (current.artifact ≠ none → current.artifact = next.artifact) (.invalidRecord "artifact is write-once")
  require (current.approval ≠ none → current.approval = next.approval) (.invalidRecord "approval is write-once")
  require (current.publication ≠ none → current.publication = next.publication)
    (.invalidRecord "publication is write-once")
  require (current.outcomeMemorySaved → next.outcomeMemorySaved)
    (.invalidRecord "outcome memory marker cannot regress")
  validateMonotonicFailure current next
  validateMonotonicStages current.stages next.stages

def validateTerminalFailureEvidence : Except Error Unit :=
  match next.failure with
  | none => invalid "terminal failure evidence is required"
  | some failure =>
    match latestStage next.stages failure.stage with
    | none => invalid "terminal failure is not bound to latest failed stage"
    | some latest => do
      require (latest.status = .failed ∧ latest.failure = some failure)
        (.invalidRecord "terminal failure is not bound to latest failed stage")
      let previous := latestStage current.stages failure.stage
      require (previous.any (fun before => stageFinished before && before.failure.isSome &&
            before.failure = current.failure && current.failure = next.failure) ∨
          stageIntroducedOrProgressed current.stages next.stages latest ∨
          previous.any (isRetryExhaustion · latest))
        (.invalidRecord "terminal failure did not come from current or new latest evidence")

end

def nonFinalizeStages (stages : List StageResult) : List StageResult := stages.filter (·.name ≠ "finalize")

def finalizeStages (stages : List StageResult) : List StageResult := stages.filter (·.name = "finalize")

def validateTerminalUpdate (current next : Record ι) : Except Error Unit := do
  require (current.status = next.status) (.invalidRecord "terminal status is immutable")
  require (current.baseSHA = next.baseSHA) (.invalidRecord "terminal base SHA is immutable")
  require (current.workerProfile = next.workerProfile) (.invalidRecord "terminal worker profile is immutable")
  require (current.secretBindings = next.secretBindings) (.invalidRecord "terminal secret bindings are immutable")
  require (current.memorySnapshot = next.memorySnapshot) (.invalidRecord "terminal memory snapshot is immutable")
  require (current.artifact = next.artifact) (.invalidRecord "terminal artifact is immutable")
  require (current.approval = next.approval) (.invalidRecord "terminal approval is immutable")
  require (current.publication = next.publication) (.invalidRecord "terminal publication is immutable")
  require (current.failure = next.failure) (.invalidRecord "terminal failure is immutable")
  require (current.outcomeMemorySaved → next.outcomeMemorySaved)
    (.invalidRecord "terminal outcome memory marker cannot regress")
  require (nonFinalizeStages current.stages = nonFinalizeStages next.stages)
    (.invalidRecord "terminal non-finalize stages are immutable")
  if current.outcomeMemorySaved = next.outcomeMemorySaved ∧
      finalizeStages current.stages = finalizeStages next.stages then
    require (next.updatedAt = current.updatedAt)
      (.invalidRecord "terminal updated time changed without bookkeeping")
  else
    require (current.status ≠ .succeeded)
      (.invalidRecord "successful terminal record does not allow bookkeeping updates")
    require (current.updatedAt < next.updatedAt) (.invalidRecord "terminal bookkeeping must advance updated time")
    validateMonotonicStages current.stages next.stages

def validateArtifactWriteLeaseTransition (current next : Record ι) : Except Error Unit :=
  match current.artifactWriteLease, next.artifactWriteLease with
  | none, none => return ()
  | none, some _ => require (current.artifact = none ∧ next.artifact = none)
      (.invalidRecord "artifact write lease cannot start after checkpoint")
  | some before, some after => require (before.attempt = after.attempt ∧ before.startedAt = after.startedAt ∧
      before.reference = after.reference ∧ before.deadline ≤ after.deadline)
      (.invalidRecord "artifact write lease identity regressed")
  | some before, none => require (∀ reference ∈ next.artifact, reference = before.reference)
      (.invalidRecord "artifact checkpoint differs from write lease")

def executeCancellationStage : String := "execute-cancellation"

def cancellationFailure : Failure where
  stage := executeCancellationStage
  failureClass := .canceled
  retryable := false
  diagnostic := "caller canceled"
  causeCode := "caller_canceled"

/-- The only correction of a terminal status: the run of a failed execute attempt becomes canceled. -/
def compensateExecuteCancellation [ProfileSha] [Document ι] (record : Record ι) (attempt : Nat)
    (startedAt now : Time) : Except Error (Record ι) := do
  validate record
  require (record.status = .failed ∧ ∃ failure ∈ record.failure, failure.stage = "execute" ∧
    failure.failureClass ≠ .canceled ∧ failure.retryable = false)
    (.invalidTransition "only a non-retryable execute failure can be compensated")
  require (∃ latest ∈ latestStage record.stages "execute", latest.status = .failed ∧ latest.failure.isSome ∧
    latest.failure = record.failure ∧ latest.attempts = attempt ∧ latest.startedAt = startedAt)
    (.invalidTransition "execute cancellation ownership differs")
  require (¬ now.IsZero ∧ record.updatedAt < now) (.invalidTransition "execute cancellation time must advance")
  require (∀ stage ∈ record.stages, stage.name ≠ executeCancellationStage)
    (.invalidTransition "execute cancellation evidence already exists")
  let stage : StageResult := {
    name := executeCancellationStage
    status := .failed
    startedAt := now
    finishedAt := now
    attempts := 1
    evidence := (Table.put ∅ "execute_attempt" (toString attempt)).put "execute_started_at"
      (rfc3339Nano startedAt)
    failure := some cancellationFailure }
  let next := { record with
    status := .canceled
    failure := some cancellationFailure
    stages := record.stages ++ [stage]
    updatedAt := now }
  validate next
  return next

section

variable (current next : Record ι)

def validateExecuteCancellationCompensation [DecidableEq ι] [ProfileSha] [Document ι] : Except Error Unit :=
  match latestStage current.stages "execute" with
  | none => invalid "terminal cancellation compensation lacks execute ownership"
  | some latest => do
    let expected ← compensateExecuteCancellation current latest.attempts latest.startedAt next.updatedAt
    require (expected = next) (.invalidRecord "terminal cancellation compensation changed prior evidence")

def validateKeptEvidence : Except Error Unit :=
  if current.terminal then validateTerminalUpdate current next else validateMonotonicEvidence current next

def validateStop : Except Error Unit :=
  if current.status ≠ next.status ∧ (next.status = .failed ∨ next.status = .canceled) then
    validateTerminalFailureEvidence current next
  else
    pure ()

def validateStatusChange : Except Error Unit :=
  if current.status ≠ next.status then do
    require (current.terminal = false) (terminalStatusError current.status)
    validateEdge current.status next.status next
  else
    pure ()

/-- The checks of `prepareSave` that depend on whether the save is a compensation. -/
def validateUpdate [DecidableEq ι] [ProfileSha] [Document ι] : Except Error Unit :=
  if current.status = .failed ∧ next.status = .canceled then
    validateExecuteCancellationCompensation current next
  else do
    validateKeptEvidence current next
    validateStop current next
    require (current.updatedAt ≤ next.updatedAt) (.invalidRecord "updated time moved backward")
    validateArtifactWriteLeaseTransition current next
    validateStatusChange current next

def prepareSave [DecidableEq ι] [ProfileSha] [Document ι] : Except Error (Record ι) := do
  validate current
  require (next.version = current.version) (.versionConflict "caller changed version")
  require (sameImmutableIdentity current next) (.invalidRecord "immutable identity or input changed")
  validateUpdate current next
  validate next
  return { next with version := current.version + 1 }

end

end Paje.Run
