import Paje.CodeChange.Publish

/-!
The evidence of a finished run: a second description of the stage histories that the phases may
leave.
-/

namespace Paje.CodeChange

open Text Run

/-- `providerStageEntry`: a stage entry with its index in the record. -/
structure Entry where
  stage : StageResult
  index : Nat

structure ProviderHistory where
  approval : List Entry := []
  publish : List Entry := []

def validProviderFailureClass (name : String) (failure : Failure) : Bool :=
  match failure.failureClass with
  | .canceled | .internal => true
  | .approval => name = "approval"
  | .publication => name = "publish"
  | _ => false

def validateProviderFailure (stage : StageResult) : Except String Unit :=
  match stage.failure with
  | none => .error "failed stage lacks failure"
  | some failure => do
    require (failure.stage = stage.name) "failure names a different stage"
    require (validProviderFailureClass stage.name failure) "failure class does not match provider stage"
    require (failure.failureClass = .canceled → failure.retryable = false)
      "canceled provider failure cannot be retryable"
    require (stage.evidence.entries = []) "failed stage carries success evidence"

def validateProviderStageShape (stage : StageResult) : Except String Unit :=
  match stage.status with
  | .warning => .error "warning status is not valid for provider stages"
  | .running => do
    require (stage.failure = none) "running stage carries failure"
    require (stage.evidence.entries = []) "running stage carries completion evidence"
  | .succeeded | .skipped => require (stage.failure = none) "successful or skipped stage carries failure"
  | .failed => validateProviderFailure stage

def followsRetryable (name : String) (previous stage : StageResult) : Except String Unit := do
  require (previous.status = .failed ∧ previous.failure.any (·.retryable))
    (name ++ " continued after a closed attempt")
  require (previous.finishedAt < stage.startedAt) (name ++ " attempts overlap")

def addEntry (entries : List Entry) (stage : StageResult) (index : Nat) : Except String (List Entry) := do
  relabel (fun message => stage.name ++ " attempt " ++ toString stage.attempts ++ ": " ++ message)
    (validateProviderStageShape stage)
  require (stage.attempts = entries.length + 1) (stage.name ++ " stage attempts are not contiguous")
  entries.getLast?.forM fun previous => followsRetryable (stage.name ++ " stage") previous.stage stage
  return entries ++ [⟨stage, index⟩]

/-- The history of the provider stages from `index` on. -/
def historyFrom : Nat → List StageResult → ProviderHistory → Except String ProviderHistory
  | _, [], history => .ok history
  | index, stage :: rest, history =>
    if stage.name = "approval" then do
      require (history.publish = []) "approval stage follows publication history"
      let approval ← addEntry history.approval stage index
      historyFrom (index + 1) rest { history with approval }
    else if stage.name = "publish" then do
      let publish ← addEntry history.publish stage index
      historyFrom (index + 1) rest { history with publish }
    else historyFrom (index + 1) rest history

def validateFailedState (record : CodeRun) (name : String) (activeStatus : Status) (failure : Failure) :
    Except String Unit :=
  if failure.retryable then
    require (record.terminal = false ∧ record.status = activeStatus) (name ++ " retryable failure has invalid status")
  else if failure.failureClass = .canceled then
    require (record.status = .canceled) (name ++ " canceled failure has invalid status")
  else require (record.status = .failed) (name ++ " terminal failure has invalid status")

def validateLatestProviderState (record : CodeRun) (name : String) (history : List Entry) (pointerPresent : Bool)
    (activeStatus : Status) : Except String Unit :=
  match history.getLast? with
  | none => require (¬ record.failure.any (·.stage = name)) (name ++ " top-level failure lacks stage")
  | some latest => match latest.stage.status, latest.stage.failure with
    | .running, _ => do
      require (pointerPresent = false) (name ++ " running stage has durable result")
      require (record.terminal = false ∧ record.status = activeStatus ∧ record.failure = none)
        (name ++ " running stage has invalid run state")
    | .failed, none => .error (name ++ " failed stage differs from top-level failure")
    | .failed, some failure => do
      require (pointerPresent = false) (name ++ " failed stage has durable result")
      require (record.failure = some failure) (name ++ " failed stage differs from top-level failure")
      validateFailedState record name activeStatus failure
    | .succeeded, _ | .skipped, _ =>
      require (¬ record.failure.any (·.stage = name)) (name ++ " closed stage retains stale failure")
    | .warning, _ => .ok ()

variable [digests : Digests] (service : Service)

def validateProviderHistoryShape (record : CodeRun) : Except String ProviderHistory := do
  relabel (fun _ => "invalid durable run") (validate record)
  let history ← historyFrom 0 record.stages {}
  validateLatestProviderState record "approval" history.approval record.approval.isSome .awaitingApproval
  validateLatestProviderState record "publish" history.publish record.publication.isSome .publishing
  return history

def canonicalFinalizeFailure (failure : Failure) : Bool :=
  failure = finalizeMemoryFailure || failure = canceledFailure "finalize" ||
    failure = exhaustedFailure finalizeMemoryFailure

def validateFinalizeAttempt (stage : StageResult) : Except String Unit :=
  match stage.status with
  | .running => require (stage.failure = none ∧ stage.evidence.entries = [])
      "running finalize attempt carries completion state"
  | .failed => require (stage.failure.any (fun failure => failure.stage = "finalize" &&
      canonicalFinalizeFailure failure) ∧ stage.evidence.entries = []) "failed finalize attempt is not canonical"
  | .succeeded => require (stage.failure = none ∧ sameStringMap stage.evidence savedOutcome)
      "succeeded finalize attempt is not canonical"
  | _ => .error "finalize attempt has invalid status"

/-- `validateFinalizeHistory`, from the attempts before on. -/
def finalizeHistoryFrom : List StageResult → List StageResult → Except String (List StageResult)
  | [], history => .ok history
  | stage :: rest, history =>
    if stage.name ≠ "finalize" then finalizeHistoryFrom rest history
    else do
      require (stage.attempts = history.length + 1) "finalize attempts are not contiguous"
      validateFinalizeAttempt stage
      history.getLast?.forM fun previous => followsRetryable "finalize" previous stage
      finalizeHistoryFrom rest (history ++ [stage])

def validateFinalizeHistory (record : CodeRun) : Except String (List StageResult) :=
  finalizeHistoryFrom record.stages []

/-! ### Finalize after its providers -/

def validateNoFinalizeBookkeeping (record : CodeRun) (history : List StageResult) : Except String Unit :=
  require (history = [] ∧ record.outcomeMemorySaved = false) "run phase is not eligible for finalize bookkeeping"

def firstFinalize (stages : List StageResult) : Option Nat :=
  stages.findIdx? fun stage => stage.name = "finalize" && stage.attempts = 1

def validateFinalizeAfterProvider (record : CodeRun) (history : List StageResult) (boundary : Entry) :
    Except String Unit :=
  match history with
  | [] => .ok ()
  | first :: _ => require ((firstFinalize record.stages).any (boundary.index < ·) ∧
      boundary.stage.finishedAt < first.startedAt) "finalize does not follow provider completion"

def latestEntry (stages : List StageResult) (name : String) : Option Entry :=
  stages.zipIdx.foldl (fun latest (stage, index) =>
    if stage.name = name ∧ latest.all (·.stage.attempts < stage.attempts) then some ⟨stage, index⟩ else latest) none

def validateUpstreamTerminalFailure (record : CodeRun) : Except String Entry :=
  match record.failure with
  | none => .error "terminal upstream failure is missing"
  | some failure => do
    require (failure.stage ≠ "finalize") "finalize failure replaced upstream failure"
    match latestEntry record.stages failure.stage with
    | none => .error "terminal upstream failure evidence is missing or changed"
    | some boundary => do
      require (boundary.stage.status = .failed ∧ boundary.stage.failure = some failure)
        "terminal upstream failure evidence is missing or changed"
      return boundary

def validateFinalizeBookkeeping (record : CodeRun) (history : List StageResult) (boundary : Entry) :
    Except String Unit := do
  validateFinalizeAfterProvider record history boundary
  match history.getLast? with
  | none => require (record.outcomeMemorySaved = false) "outcome memory marker lacks finalize evidence"
  | some latest => match latest.status with
    | .running | .failed =>
      require (record.outcomeMemorySaved = false) "unfinished finalize retains outcome memory marker"
    | .succeeded => require record.outcomeMemorySaved "succeeded finalize lacks outcome memory marker"
    | _ => .error "finalize bookkeeping has invalid latest status"

def validateFinalizeWithoutCompletedProvider (record : CodeRun) (history : List StageResult)
    (boundary : Option Entry) : Except String Unit :=
  if !record.terminal then validateNoFinalizeBookkeeping record history
  else match boundary with
    | some boundary => validateFinalizeBookkeeping record history boundary
    | none => do
      let boundary ← validateUpstreamTerminalFailure record
      validateFinalizeBookkeeping record history boundary

def validateOpenFinalizeHistory (record : CodeRun) (history : List StageResult) : Except String Unit := do
  require (record.outcomeMemorySaved = false) "pre-finalize run retains outcome memory marker"
  require (history.getLast?.all (·.status = .running)) "open finalize history is not running"

def expectedFinalizeFailure (status : Status) (active : Bool) : Option Failure :=
  if active then some finalizeMemoryFailure
  else match status with
    | .canceled => some (canceledFailure "finalize")
    | .failed => some (exhaustedFailure finalizeMemoryFailure)
    | _ => none

def validateCanonicalFinalizeFailure (record : CodeRun) (history : List StageResult) (active : Bool) :
    Except String Unit := do
  require (record.failure.any (·.stage = "finalize"))
    "completed provider history requires finalize top-level failure"
  require (record.outcomeMemorySaved = false) "failed finalize history retains outcome memory marker"
  match history.getLast? with
  | none => .error "finalize failure evidence is missing"
  | some latest => do
    require (latest.status = .failed ∧ latest.failure.isSome ∧ latest.failure = record.failure ∧
      latest.evidence.entries = []) "finalize failure evidence is missing or changed"
    match expectedFinalizeFailure record.status active with
    | none => .error "finalize failure has invalid run status"
    | some expected => require (record.failure = some expected) "finalize failure is not canonical for run status"

def validateCanonicalFinalizeSuccess (record : CodeRun) (history : List StageResult) : Except String Unit := do
  require record.outcomeMemorySaved "succeeded run lacks outcome memory marker"
  match history.getLast? with
  | none => .error "succeeded run lacks finalize evidence"
  | some latest => require (latest.status = .succeeded ∧ latest.failure = none ∧
      sameStringMap latest.evidence savedOutcome) "succeeded run lacks canonical finalize evidence"

def validateCompletedProviderPhase (record : CodeRun) (immediate : Status) (history : List StageResult)
    (boundary : Entry) : Except String Unit := do
  validateFinalizeAfterProvider record history boundary
  if record.status = immediate then
    if record.failure.isSome then validateCanonicalFinalizeFailure record history true
    else validateOpenFinalizeHistory record history
  else match record.status with
    | .succeeded => do
      require (record.failure = none) "succeeded run retains failure"
      validateCanonicalFinalizeSuccess record history
    | .failed | .canceled => validateCanonicalFinalizeFailure record history false
    | status => .error ("completed provider history cannot have run status \"" ++ status.text ++ "\"")

def validateArtifactSkipHistory (history : List Entry) : Except String Unit :=
  match history with
  | [entry] => do
    require (entry.stage.status = .skipped) "stage status is not skipped"
    require (sameStringMap entry.stage.evidence (table [("publication_mode", "artifact")]))
      "skip binding is missing or changed"
  | _ => .error "artifact mode requires exactly one skipped attempt"

def validateProviderChronology (history : ProviderHistory) : Except String Unit :=
  match history.approval.getLast?, history.publish with
  | some approval, publish :: _ => require (approval.index < publish.index ∧
      approval.stage.finishedAt < publish.stage.startedAt) "publication does not follow completed approval"
  | _, _ => .error "approval and publication history are required"

section

variable (record : CodeRun)

/-- The artifact branch of `validateProviderPhaseCompatibility`. -/
def validateArtifactProviderPhase (history : ProviderHistory)
    (finalizeHistory : List StageResult) : Except String Unit := do
  require (record.status = .succeeded → record.failure = none) "succeeded run retains top-level failure"
  match history.publish.getLast? with
  | none => .error "publication history is required"
  | some boundary => validateCompletedProviderPhase record .executing finalizeHistory boundary

def validateArtifactEvidence (history : ProviderHistory)
    (finalizeHistory : List StageResult) : Except String Unit := do
  require (record.approval = none ∧ record.publication = none)
    "artifact-only run contains publication evidence"
  relabel ("approval evidence: " ++ ·) (validateArtifactSkipHistory history.approval)
  relabel ("publication evidence: " ++ ·) (validateArtifactSkipHistory history.publish)
  relabel ("provider chronology: " ++ ·) (validateProviderChronology history)
  relabel ("provider phase: " ++ ·) (validateArtifactProviderPhase record history finalizeHistory)

def validateDecisionEvidence (request : ApprovalRequest) (stage : StageResult) : Except String Unit :=
  match record.approval with
  | none => require (record.status ≠ .publishing ∧ record.status ≠ .succeeded)
      "publication status lacks approved decision"
  | some decision => do
    validateDecision decision request
    require (sameStringMap stage.evidence (approvalEvidence request)) "approval request binding changed"
    require (record.status = .declined ∨ decision.approved) "approval decision is not approved"

def validatePullRequestApprovalEvidence (request : ApprovalRequest) (history : List Entry) :
    Except String Unit :=
  match history.getLast? with
  | none => do
    require (record.approval = none) "approval decision lacks stage"
    require (record.status ≠ .publishing ∧ record.status ≠ .succeeded ∧ record.status ≠ .declined)
      "run status requires approval evidence"
  | some latest => do
    let stage := latest.stage
    require (stage.status ≠ .skipped) "pull-request approval cannot be skipped"
    require (stage.status = .succeeded → record.approval.isSome) "succeeded approval stage lacks decision"
    require (record.approval.isSome → stage.status = .succeeded) "approval decision lacks succeeded stage"
    require (record.status = .declined → record.approval.any (!·.approved)) "declined status lacks declined decision"
    require (record.approval.any (!·.approved) → record.status = .declined)
      "declined decision requires declined status"
    validateDecisionEvidence record request stage

def validatePublishedEvidence (input : Input) (stage : StageResult) : Except String Unit :=
  match record.publication with
  | none => require (record.status ≠ .succeeded) "successful run lacks publication result"
  | some publication => do
    require (record.approval.any (·.approved)) "publication lacks approved decision"
    let request ← relabel ("publisher request: " ++ ·) (buildPublisherRequest record input)
    validatePublicationResult service publication request input.publication.provider
    require (sameStringMap stage.evidence (publicationEvidence request publication))
      "publication binding evidence is missing or changed"

def validatePublishHistory (input : Input) (history : ProviderHistory) (stage : StageResult) :
    Except String Unit :=
  match history.approval.getLast? with
  | none => .error "publication lacks approval stage"
  | some approval => do
    require (approval.stage.status = .succeeded ∧ record.approval.any (·.approved))
      "publication lacks completed approved decision"
    validateProviderChronology history
    require (stage.status ≠ .skipped) "pull-request publication cannot be skipped"
    require (stage.status = .succeeded → record.publication.isSome) "succeeded publish stage lacks result"
    require (record.publication.isSome → stage.status = .succeeded) "publication result lacks succeeded stage"
    validatePublishedEvidence service record input stage

def validatePullRequestPublicationEvidence (input : Input) (history : ProviderHistory) : Except String Unit :=
  if record.status = .declined then
    require (record.publication = none ∧ history.publish = []) "declined run contains publication evidence"
  else match history.publish.getLast? with
    | none => do
      require (record.publication = none) "publication result lacks stage"
      require (record.status ≠ .publishing ∧ record.status ≠ .succeeded) "run status requires publication evidence"
    | some latest => validatePublishHistory service record input history latest.stage

def validateDecidedPhase (history : ProviderHistory) (finalizeHistory : List StageResult)
    (approval : Entry) (decision : Decision) : Except String Unit :=
  if !decision.approved then do
    require (record.status = .declined ∧ record.failure = none ∧ history.publish = [])
      "declined approval has invalid phase state"
    validateFinalizeWithoutCompletedProvider record finalizeHistory (some approval)
  else match history.publish.getLast? with
    | none => do
      require (record.status = .awaitingApproval ∧ record.failure = none)
        "approved run without publication has invalid phase state"
      validateNoFinalizeBookkeeping record finalizeHistory
    | some publish => match publish.stage.status with
      | .running => validateNoFinalizeBookkeeping record finalizeHistory
      | .failed =>
        if record.terminal then validateFinalizeWithoutCompletedProvider record finalizeHistory (some publish)
        else validateNoFinalizeBookkeeping record finalizeHistory
      | .succeeded => validateCompletedProviderPhase record .publishing finalizeHistory publish
      | _ => .error "pull-request publication has invalid completed state"

def validatePullRequestProviderPhase (history : ProviderHistory)
    (finalizeHistory : List StageResult) : Except String Unit :=
  match history.approval.getLast? with
  | none =>
    if record.status ≠ .executing || record.failure.isSome then
      if record.terminal then validateFinalizeWithoutCompletedProvider record finalizeHistory none
      else .error "run without approval history has invalid phase state"
    else validateNoFinalizeBookkeeping record finalizeHistory
  | some approval => match approval.stage.status with
    | .running => do
      require (history.publish = []) "publication began before approval completed"
      validateNoFinalizeBookkeeping record finalizeHistory
    | .failed => do
      require (history.publish = []) "publication began before approval completed"
      if record.terminal then validateFinalizeWithoutCompletedProvider record finalizeHistory (some approval)
      else validateNoFinalizeBookkeeping record finalizeHistory
    | .succeeded => match record.approval with
      | none => .error "completed approval lacks decision"
      | some decision => validateDecidedPhase record history finalizeHistory approval decision
    | _ => .error "pull-request approval has invalid completed state"

def validatePullRequestEvidence (input : Input) (request : ApprovalRequest)
    (history : ProviderHistory) (finalizeHistory : List StageResult) : Except String Unit := do
  relabel ("approval evidence: " ++ ·) (validatePullRequestApprovalEvidence record request history.approval)
  relabel ("publication evidence: " ++ ·) (validatePullRequestPublicationEvidence service record input history)
  require (record.status = .succeeded → record.failure = none) "provider phase: succeeded run retains top-level failure"
  relabel ("provider phase: " ++ ·) (validatePullRequestProviderPhase record history finalizeHistory)

def validateWithoutArtifact (history : ProviderHistory) (finalizeHistory : List StageResult) :
    Except String Unit := do
  require (record.approval = none ∧ record.publication = none) "durable decision lacks artifact"
  require (history.approval = [] ∧ history.publish = []) "provider stage lacks artifact"
  relabel ("finalize phase: " ++ ·) (validateFinalizeWithoutCompletedProvider record finalizeHistory none)

def validateWithArtifact (input : Input) (reference : Reference) (bundle : Bundle)
    (history : ProviderHistory) (finalizeHistory : List StageResult) : Except String Unit :=
  match input.publication.mode with
  | .artifact => validateArtifactEvidence record history finalizeHistory
  | .pullRequest => validatePullRequestEvidence service record input
      (buildApprovalRequest record input reference bundle) history finalizeHistory

/-- The histories that `validateDurableEvidence` reads before it loads the artifact. -/
def durableHistories : Except String (ProviderHistory × List StageResult) := do
  let history ← validateProviderHistoryShape record
  let finalizeHistory ← relabel ("finalize evidence: " ++ ·) (validateFinalizeHistory record)
  return (history, finalizeHistory)

end

def bindingFaults (message : String) : Errors := [.runBinding message]

/-- `validateDurableEvidence`, given what the artifact store answers for a reference. -/
def durableEvidence (load : Reference → Except Errors Bundle) (record : CodeRun) (input : Input) :
    Except Errors Unit := do
  let (history, finalizeHistory) ← relabel bindingFaults (durableHistories record)
  match record.artifact with
  | none => relabel bindingFaults (validateWithoutArtifact record history finalizeHistory)
  | some reference => do
    let bundle ← load reference
    validateArtifactBinding record bundle
    relabel bindingFaults (validateWithArtifact service record input reference bundle history finalizeHistory)

end Paje.CodeChange
