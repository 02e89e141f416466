import Paje.CodeChange.Execute

/-!
The approval and publish phases, and the exhaustion of a stage: a human decision is bound to the run's artifact,
and only an approved artifact is handed to the publisher.
-/

namespace Paje.CodeChange

open Text Run

variable [digests : Digests] (service : Service)

structure Bound where
  record : CodeRun
  input : Input
  reference : Reference
  bundle : Bundle

/-- `loadApprovalState` and `loadPublishable`, which differ in the message about a missing artifact. -/
def loadArtifactState (missing runID : String) : Phase (Except (Option CodeRun × Errors) Bound) := do
  match ← loadBound service runID with
  | .error error => return .error error
  | .ok (record, input) => match record.artifact with
    | none => return .error (some record, [.runBinding missing])
    | some reference =>
      match ← ask (.loadArtifact reference) with
      | .error errors => return .error (some record, errors)
      | .ok bundle => match validateArtifactBinding record bundle with
        | .error errors => return .error (some record, errors)
        | .ok _ => return .ok ⟨record, input, reference, bundle⟩

def approvalBindingFailure : Failure :=
  ⟨"approval", .approval, false, "approval binding is invalid", "approval_binding_mismatch"⟩

/-- The result of `skipStage` and of the persistence of a decision or a publication. -/
def settled (result : Except Errors CodeRun) : Returned :=
  match result with
  | .ok record => (phaseResult record, [])
  | .error errors => if .phaseInProgress ∈ errors then phaseInProgress none else ({}, errors)

/-- `skipStage`. -/
def skip (record : CodeRun) (name : String) : Phase Returned := do
  return settled (← mutateRecord service record.id (.skip name))

def recordApprovalFailure (record : CodeRun) (failure : Failure) (cause : Errors) : Phase Returned := do
  if record.terminal then return (phaseResult record, cause)
  else match (latestStage record.stages "approval").filter (·.status = .running) with
    | some latest => failAttempt service record.id (ownershipOf latest) failure cause
    | none =>
      match ← beginAttempt service record.id "approval" .awaitingApproval with
      | .error errors => return (phaseResult record, cause ++ errors)
      | .ok (started, true) => failAttempt service record.id (latestOwnership started "approval") failure cause
      | .ok (started, false) => return phaseInProgress started

/-- `compensateOwnedCancellation`. -/
def compensateCancellation (runID : String) (ownership : Ownership) (cause : Errors) : Phase Returned := do
  let failure := canceledFailure ownership.name
  match ← mutateRecord service runID (.compensate ownership) with
  | .ok record => return (phaseResult record, .phase failure :: .canceled :: cause)
  | .error errors => return ({}, .phase failure :: .canceled :: cause ++ errors)

/-- The end of `Approval` and `Publish`: the result of the last save, or the cancellation of its attempt. -/
def closeAttempt (runID : String) (ownership : Ownership) (result : Except Errors CodeRun) : Phase Returned := do
  let canceled ← ask .canceled
  if canceled && (settled result).2 ≠ [] then compensateCancellation service runID ownership (settled result).2
  else return settled result

def recordDecision (runID : String) (ownership : Ownership) (request : ApprovalRequest)
    (answer : Except Errors Decision) : Phase Returned := do
  let canceled ← ask .canceled
  if canceled then failAttempt service runID ownership (canceledFailure "approval") [.canceled]
  else match answer with
    | .error errors =>
      failAttempt service runID ownership ⟨"approval", .approval, typedRetryable errors,
        "approval provider request failed", "approval_provider_failed"⟩ errors
    | .ok decision => match validateDecision decision request with
      | .error message => failAttempt service runID ownership approvalBindingFailure [.text message]
      | .ok _ => do
        let result ← mutateRecord service runID (.persistApproval ownership request decision)
        closeAttempt service runID ownership result

def approved (record : CodeRun) (request : ApprovalRequest) : Phase Returned :=
  match validatePersistedApproval record request with
  | .error message => recordApprovalFailure service record approvalBindingFailure [.text message]
  | .ok _ => return (phaseResult record, [])

/-- The phase from its started attempt on; `gated` says whether there is a gate. -/
def approvalStarted (runID : String) (gated : Bool) (record : CodeRun) (request : ApprovalRequest) :
    Phase Returned := do
  match ownershipFor record "approval" with
  | .error errors => return (phaseResult record, errors)
  | .ok ownership =>
    if !gated then
      failAttempt service runID ownership ⟨"approval", .approval, false, "approval provider is unavailable",
        "approval_provider_unavailable"⟩ [.text "approval gate is required"]
    else do
      let answer ← ask (.requestApproval request)
      recordDecision service runID ownership request answer

def approval (gated : Bool) (runID : String) : Phase Returned := do
  match ← loadArtifactState service "approval artifact is missing" runID with
  | .error error => return refused error
  | .ok ⟨record, input, reference, bundle⟩ =>
    if record.terminal then return (phaseResult record, [])
    else if input.publication.mode = .artifact then skip service record "approval"
    else
      let request := buildApprovalRequest record input reference bundle
      match validateApprovalRequest request with
      | .error message => recordApprovalFailure service record approvalBindingFailure [.text message]
      | .ok _ =>
        if record.approval.isSome then approved service record request
        else match ← beginAttempt service runID "approval" .awaitingApproval with
          | .error errors => return ({}, errors)
          | .ok (record, started) =>
            if record.terminal then return (phaseResult record, [])
            else if started then approvalStarted service runID gated record request
            else if record.approval.isSome then approved service record request
            else return phaseInProgress record

def recordPublishFailure (record : CodeRun) (failure : Failure) (cause : Errors) : Phase Returned := do
  if record.terminal then return (phaseResult record, cause)
  else match (latestStage record.stages "publish").filter (·.status = .running) with
    | some latest => failAttempt service record.id (ownershipOf latest) failure cause
    | none =>
      if record.status ≠ .awaitingApproval then
        match ← mutateRecord service record.id (.failBeforePublish failure) with
        | .ok failed => return (phaseResult failed, .phase failure :: cause)
        | .error errors => return ({}, .phase failure :: cause ++ errors)
      else
        match ← beginAttempt service record.id "publish" .publishing with
        | .error errors => return (phaseResult record, cause ++ errors)
        | .ok (started, true) => failAttempt service record.id (latestOwnership started "publish") failure cause
        | .ok (started, false) => return phaseInProgress started

/-- `recordPublishApprovalPreconditionFailure`. -/
def recordMissingApproval (record : CodeRun) (cause : Errors) : Phase Returned := do
  match latestStage record.stages "approval" with
  | some latest => match latest.status, latest.failure with
    | .running, _ => return phaseInProgress record
    | .failed, none =>
      return (phaseResult record, [.runBinding "failed approval precondition lacks failure"])
    | .failed, some failure => return (phaseResult record, .phase failure :: cause)
    | _, _ => return (phaseResult record, [.runBinding "approval result is missing from completed stage"])
  | none =>
    match ← mutateRecord service record.id .failMissingApproval with
    | .ok failed => return (phaseResult failed, .phase publishApprovalPreconditionFailure :: cause)
    | .error errors => return ({}, .phase publishApprovalPreconditionFailure :: cause ++ errors)

def publishFailure (errors : Errors) : Failure :=
  if .conflict ∈ errors then
    ⟨"publish", .publication, false, "publication conflicts with existing provider state", "publication_conflict"⟩
  else ⟨"publish", .publication, typedRetryable errors, "publication provider request failed",
    "publication_provider_failed"⟩

def recordPublication (runID : String) (ownership : Ownership) (bound : Bound) (request : PublisherRequest)
    (answer : Except Errors Publication) : Phase Returned := do
  let canceled ← ask .canceled
  if canceled then failAttempt service runID ownership (canceledFailure "publish") [.canceled]
  else match answer with
    | .error errors => failAttempt service runID ownership (publishFailure errors) errors
    | .ok result =>
      match validatePublicationResult service result request bound.input.publication.provider with
      | .error message => failAttempt service runID ownership ⟨"publish", .publication, false,
          "publication result binding is invalid", "publication_binding_mismatch"⟩ [.text message]
      | .ok _ => do
        let result ← mutateRecord service runID (.persistPublication ownership request bound.bundle result)
        closeAttempt service runID ownership result

def published (record : CodeRun) (input : Input) (request : PublisherRequest) : Phase Returned :=
  match validatePersistedPublication service record request input.publication.provider with
  | .error message => recordPublishFailure service record publishBindingFailure [.text message]
  | .ok _ => return (phaseResult record, [])

def publishStarted (runID : String) (bound : Bound) (record : CodeRun) (request : PublisherRequest) :
    Phase Returned := do
  match ownershipFor record "publish" with
  | .error errors => return (phaseResult record, errors)
  | .ok ownership => do
    let answer ← ask (.publish request)
    recordPublication service runID ownership bound request answer

def publishApproved (runID : String) (bound : Bound) (request : PublisherRequest) : Phase Returned := do
  if bound.record.publication.isSome then published service bound.record bound.input request
  else match ← beginAttempt service runID "publish" .publishing with
    | .error errors => return ({}, errors)
    | .ok (record, started) =>
      if record.terminal then return (phaseResult record, [])
      else if started then publishStarted service runID bound record request
      else if record.publication.isSome then published service record bound.input request
      else return phaseInProgress record

/-- The phase when the decision is missing, not bound to the artifact or not an approval. -/
def publishUnapproved (record : CodeRun) (message : String) : Phase Returned :=
  if record.approval.isNone then recordMissingApproval service record [.text message]
  else return (phaseResult record, [.runBinding "publication approval binding is invalid"])

def publish (runID : String) : Phase Returned := do
  match ← loadArtifactState service "publish artifact is missing" runID with
  | .error error => return refused error
  | .ok bound =>
    let record := bound.record
    let approvalRequest := buildApprovalRequest record bound.input bound.reference bound.bundle
    if record.terminal then return (phaseResult record, [])
    else if bound.input.publication.mode = .artifact then skip service record "publish"
    else match validatePersistedApproval record approvalRequest with
      | .error message => publishUnapproved service record message
      | .ok _ =>
        if !record.approval.any (·.approved) then
          publishUnapproved service record "approval decision is not approved"
        else match buildPublisherRequestWithBundle record bound.input bound.bundle with
          | .error message => recordPublishFailure service record publishBindingFailure [.text message]
          | .ok request => publishApproved service runID bound request

/-- The result of `Exhaust`: a run that was left as it was is in progress unless it is terminal. -/
def exhausted (result : Except Errors (CodeRun × Bool)) : Returned :=
  match result with
  | .error errors => ({}, errors)
  | .ok (record, saved) => if !saved && !record.terminal then phaseInProgress record else (phaseResult record, [])

/-- `exhaustFinalize`. -/
def exhaustFinalizeStage (runID : String) : Phase Returned := do
  match ← loadBound service runID with
  | .error error => return refused error
  | .ok (record, _) =>
    if record.outcomeMemorySaved || finalizeExhausted record then return (phaseResult record, [])
    else if record.terminal && ((latestStage record.stages "finalize").bind (·.failure)).all (!·.retryable) then
      return (phaseResult record, [])
    else return returned (← mutateRecord service runID .exhaustFinalize)

def exhaust (runID stage : String) : Phase Returned := do
  if stage = "finalize" then exhaustFinalizeStage service runID
  else match ← loadBound service runID with
    | .error error => return refused error
    | .ok (record, _) =>
      if record.terminal then return (phaseResult record, [])
      else return exhausted (← mutate service runID (.exhaust stage))

end Paje.CodeChange
