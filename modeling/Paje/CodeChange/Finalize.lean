import Paje.CodeChange.Evidence

/-!
The finalize phase: the outcome of a finished run is saved as one memory, and its result is rebuilt from the record.
-/

namespace Paje.CodeChange

open Text Run

/-- `templatecodechange.Result`. -/
structure Result where
  runID : String := ""
  status : Option Status := none
  baseSHA : String := ""
  artifact : Option Reference := none
  verification : List CheckResult := []
  approval : Option Decision := none
  publication : Option Publication := none
  failure : Option Failure := none

variable [digests : Digests] (service : Service)

/-- `validateDurableEvidence`. -/
def askEvidence (record : CodeRun) (input : Input) : Phase (Except Errors Unit) := do
  match durableHistories record, record.artifact with
  | .ok _, some reference => do
    let answer ← ask (.loadArtifact reference)
    return durableEvidence service (fun _ => answer) record input
  | _, _ => return durableEvidence service (fun _ => .error []) record input

def recordResult (record : CodeRun) (verification : List CheckResult) : Result where
  runID := record.id
  status := some record.status
  baseSHA := record.baseSHA
  artifact := record.artifact
  verification
  approval := record.approval
  publication := record.publication
  failure := record.failure

def partialResult (record : CodeRun) : Result :=
  { runID := record.id, status := some record.status, baseSHA := record.baseSHA }

/-- The end of `resultFromRecord`, for a record with valid evidence. -/
def loadResult (record : CodeRun) : Phase (Result × Errors) := do
  match record.artifact with
  | none => return (recordResult record [], [])
  | some reference =>
    match ← ask (.loadArtifact reference) with
    | .error errors => return ({ partialResult record with artifact := some reference }, errors)
    | .ok bundle => match validateArtifactBinding record bundle with
      | .error errors => return ({ partialResult record with artifact := some reference }, errors)
      | .ok _ => return (recordResult record bundle.verification, [])

/-- `resultFromRecord` of a record that may be the zero value. -/
def resultFromRecord (record : Option CodeRun) : Phase (Result × Errors) := do
  match record with
  | none => return ({}, [.runBinding "template"])
  | some record => match validateRunBinding service record with
    | .error errors => return (partialResult record, errors)
    | .ok input =>
      match ← askEvidence service record input with
      | .error errors => return (partialResult record, errors)
      | .ok _ => loadResult record

def resultAfter (record : Option CodeRun) (errors : Errors) : Phase (Result × Errors) := do
  let (result, resultErrors) ← resultFromRecord service record
  return (result, errors ++ resultErrors)

/-- `reloadForResult` after a mutation, and the result. -/
def reloadResult (runID : String) (updated : Except Errors CodeRun) (errors : Errors) : Phase (Result × Errors) := do
  match updated with
  | .ok record => resultAfter service (some record) errors
  | .error saveErrors =>
    match ← ask (.load runID) with
    | .ok record => resultAfter service (some record) (errors ++ saveErrors)
    | .error _ => resultAfter service none (errors ++ saveErrors)

def outcomeSearchLimit : Int := 100

def stageStatusText : StageStatus → String
  | .running => "running"
  | .succeeded => "succeeded"
  | .skipped => "skipped"
  | .warning => "warning"
  | .failed => "failed"

def failureClassText : FailureClass → String
  | .input => "input"
  | .environment => "environment"
  | .agent => "agent"
  | .verification => "verification"
  | .policy => "policy"
  | .approval => "approval"
  | .publication => "publication"
  | .cleanup => "cleanup"
  | .canceled => "canceled"
  | .internal => "internal"

def outcomeStageStatus (record : CodeRun) (name : String) : String :=
  match latestStage record.stages name with
  | none => "not_run"
  | some stage => stageStatusText stage.status

def outcomeContent (record : CodeRun) : String :=
  let statuses := (["resolve", "execute", "approval", "publish"].map fun name =>
    name ++ "=" ++ outcomeStageStatus record name) ++ ["finalize=succeeded"]
  let failure := match record.failure.filter (·.stage ≠ "finalize") with
    | none => "none"
    | some failure => failureClassText failure.failureClass ++ "/" ++ failure.causeCode
  let publication := match record.publication with
    | none => "none"
    | some publication => publication.pullRequestURL
  let artifactDigest := match record.artifact with
    | none => "none"
    | some reference => "sha256:" ++ reference.digest
  "Pajé run " ++ record.id ++ " completed\nTemplate: " ++ TemplateID.text record.template ++ "\nBase SHA: " ++
    record.baseSHA ++ "\nArtifact: " ++ artifactDigest ++ "\nStages: " ++ ", ".intercalate statuses ++
    "\nFailure: " ++ failure ++ "\nPublication: " ++ publication

def outcomeTags (record : CodeRun) (input : Input) : Table String :=
  table [("user_id", (input.tags.get? "user_id").getD ""), ("app_id", (input.tags.get? "app_id").getD ""),
    ("run_id", record.id), ("paje_run_id", record.id), ("paje_template", TemplateID.text record.template),
    ("paje_base_sha", record.baseSHA),
    ("paje_artifact_digest", (record.artifact.map (·.digest)).getD ""),
    ("paje_status", (if record.terminal then record.status else .succeeded).text)]

def saveOutcomeMemory (record : CodeRun) (input : Input) : Phase Errors := do
  let content := outcomeContent record
  let tags := outcomeTags record input
  let scope := table [("user_id", (input.tags.get? "user_id").getD ""),
    ("app_id", (input.tags.get? "app_id").getD ""), ("run_id", record.id)]
  match ← ask (.searchMemory ("Pajé run " ++ record.id ++ " completed") outcomeSearchLimit scope) with
  | .error errors => return errors
  | .ok memories =>
    if memories.any (·.content = content) then return []
    else ask (.saveMemory content tags)

def failMemory (runID : String) (ownership : Ownership) (errors : Errors) : Phase (Result × Errors) := do
  let canceled ← ask .canceled
  let failure := if canceled then canceledFailure "finalize" else finalizeMemoryFailure
  let failed ← mutateRecord service runID (.failFinalize ownership failure)
  reloadResult service runID failed (.phase failure :: errors)

def finalizeOwned (runID : String) (ownership : Ownership) (record : CodeRun) (input : Input) :
    Phase (Result × Errors) := do
  match ← askEvidence service record input with
  | .error errors => resultAfter service (some record) errors
  | .ok _ => do
    let errors ← saveOutcomeMemory record input
    if errors ≠ [] then failMemory service record.id ownership errors
    else do
      let finished ← mutateRecord service record.id (.finishFinalize ownership)
      reloadResult service runID finished []

def finishSaved (runID : String) (record : CodeRun) : Phase (Result × Errors) := do
  let finished ← mutateRecord service record.id .finishSavedOutcome
  reloadResult service runID finished []

def finalize (runID : String) : Phase (Result × Errors) := do
  let canceled ← ask .canceled
  if canceled then return ({}, [.canceled])
  else match ← loadBound service runID with
    | .error (none, errors) => return ({}, errors)
    | .error (some record, errors) => resultAfter service (some record) errors
    | .ok (record, input) =>
      if finalizeClosed record then resultFromRecord service (some record)
      else if record.outcomeMemorySaved then finishSaved service runID record
      else match ← mutateRecord service record.id .beginFinalize with
        | .error errors => reloadResult service runID (.error errors) []
        | .ok record =>
          if record.outcomeMemorySaved then finishSaved service runID record
          else if finalizeClosed record then resultFromRecord service (some record)
          else finalizeOwned service runID (latestOwnership record "finalize") record input

inductive Call where
  | resolve (runID : String) (document : Input) (memoryLimitSet : Bool)
  | resolveWithRunID (runID : String) (document : Input) (memoryLimitSet : Bool)
  | execute (runID : String)
  | approval (runID : String) (gated : Bool)
  | publish (runID : String)
  | finalize (runID : String)
  | exhaust (runID stage : String)

def Call.program : Call → Phase Unit
  | .resolve runID document memoryLimitSet => do
    let _ ← CodeChange.resolve service runID document memoryLimitSet false
  | .resolveWithRunID runID document memoryLimitSet => do
    let _ ← CodeChange.resolveWithRunID service runID document memoryLimitSet
  | .execute runID => do let _ ← CodeChange.execute service runID
  | .approval runID gated => do let _ ← CodeChange.approval service gated runID
  | .publish runID => do let _ ← CodeChange.publish service runID
  | .finalize runID => do let _ ← CodeChange.finalize service runID
  | .exhaust runID stage => do let _ ← CodeChange.exhaust service runID stage

end Paje.CodeChange
