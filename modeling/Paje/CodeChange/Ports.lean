import Paje.CodeChange.Updates
import Paje.Lib.Task

/-!
The ports of the service: a phase is a program over its questions to the clock, its context, the
stores and the providers. All changes of a stored record go through `mutate`.
-/

namespace Paje.CodeChange

open Text Run

/-- `repository.Revision`. -/
structure Revision where
  (repositoryURI ref sha : String)
  sourceDirty : Bool := false

/-- `secret.Binding`: its reference and what it authorizes. -/
structure SecretBinding where
  ref : BindingRef
  profileID : ProfileID
  delivery : Delivery
  target : String

/-- `secret.Lease`. -/
structure SecretLease where
  id : String
  materialization : Materialization

structure PolicyDecision where
  allowed : Bool
  /-- the JSON text of the findings -/
  findings : String

inductive Ask where
  /-- `ctx.Err()` -/
  | canceled
  | clock
  /-- all readings of one mutation -/
  | readings
  | reserve (reservation : Reservation Input)
  | load (id : String)
  | save (mutation : Mutation) (record : CodeRun) (expected : Nat)
  | resolveRevision (repositoryURI ref : String)
  | resolveProfile (id : ProfileID)
  | resolveBinding (id : ProfileID) (requirement : SecretRequirement)
  | searchMemory (query : String) (limit : Int) (tags : Table String)
  | saveMemory (content : String) (tags : Table String)
  | prepareWorkspace (repositoryURI sha : String)
  | cleanupWorkspace (path : String)
  /-- the workspace with its links resolved, if it is a directory -/
  | resolveWorkspace (path : String)
  /-- whether a directory lies in the workspace after its links are resolved -/
  | contained (workspace directory : String)
  | execute (request : SandboxRequest)
  | inspect (attempt : AttemptID)
  | cancel (attempt : AttemptID)
  | destroy (attempt : AttemptID)
  | acquire (attempt : Ownership) (binding : BindingRef) (requirement : SecretRequirement) (deadline : Time)
  | revoke (lease : String)
  | capture (workspace baseSHA : String)
  | evaluate (capture : Capture)
  | saveArtifact (bundle : Bundle)
  | loadArtifact (reference : Reference)
  | requestApproval (request : ApprovalRequest)
  | publish (request : PublisherRequest)

@[reducible] def Answer : Ask → Type
  | .canceled => Bool
  | .clock => Time
  | .readings => Readings
  | .reserve _ => Except (Option CodeRun × Errors) (CodeRun × Bool)
  | .load _ | .save _ _ _ => Except Errors CodeRun
  | .resolveRevision _ _ => Except Errors Revision
  | .resolveProfile _ => Except Errors Profile
  | .resolveBinding _ _ => Except Errors SecretBinding
  | .searchMemory _ _ _ => Except Errors (List Memory)
  | .saveMemory _ _ | .cleanupWorkspace _ | .cancel _ | .destroy _ | .revoke _ => Errors
  | .prepareWorkspace _ _ | .resolveWorkspace _ => Except Errors String
  | .contained _ _ => Except Errors Unit
  | .execute _ => SandboxResult × Errors
  | .inspect _ => SandboxState × Errors
  | .acquire _ _ _ _ => Except Errors SecretLease
  | .capture _ _ => Except Errors Capture
  | .evaluate _ => PolicyDecision
  | .saveArtifact _ => Except Errors Reference
  | .loadArtifact _ => Except Errors Bundle
  | .requestApproval _ => Except Errors Decision
  | .publish _ => Except Errors Publication

abbrev Phase := Process Ask Answer

abbrev Exchanges := Trace Ask Answer

def ask (question : Ask) : Phase (Answer question) := Process.perform question

structure PhaseResult where
  runID : String := ""
  status : Option Status := none
  artifact : Option Reference := none
  failureClass : Option FailureClass := none
  retryable : Bool := false

def phaseResult (record : CodeRun) : PhaseResult where
  runID := record.id
  status := some record.status
  artifact := record.artifact
  failureClass := record.failure.map (·.failureClass)
  retryable := record.failure.any (·.retryable)

/-- `phaseResult` of a record that may be the zero value. -/
def resultOf (record : Option CodeRun) : PhaseResult := (record.map phaseResult).getD {}

abbrev Returned := PhaseResult × Errors

def phaseInProgress (record : Option CodeRun) : Returned :=
  ({ resultOf record with failureClass := some .internal, retryable := true }, [.phaseInProgress])

def returned (result : Except Errors CodeRun) : Returned :=
  match result with
  | .ok record => (phaseResult record, [])
  | .error errors => ({}, errors)

variable [digests : Digests] (service : Service)

def maxCASAttempts : Nat := 3

def isVersionConflict (errors : Errors) : Bool :=
  errors.any fun fault => match fault with
    | .run (.versionConflict _) => true
    | _ => false

/-- `mutate` with `tries` attempts left. The mutation may depend on a state of the caller and on the record that
was loaded; the result says whether a record was saved. -/
def mutateFrom {σ : Type} (runID : String) (choose : σ → Readings → CodeRun → σ × Mutation) :
    Nat → Errors → σ → Phase (σ × Except Errors (CodeRun × Bool))
  | 0, last, state => pure (state, .error (.text "persist run after 3 CAS attempts" :: last))
  | tries + 1, _, state => do
    match ← ask (.load runID) with
    | .error errors => pure (state, .error errors)
    | .ok current => do
      let readings ← ask .readings
      let (state, mutation) := choose state readings current
      match mutation.apply service readings current with
      | .error errors => pure (state, .error errors)
      | .ok none => pure (state, .ok (current, false))
      | .ok (some next) =>
        match ← ask (.save mutation next current.version) with
        | .ok saved => pure (state, .ok (saved, true))
        | .error errors =>
          if isVersionConflict errors then mutateFrom runID choose tries errors state
          else pure (state, .error errors)

def mutate (runID : String) (mutation : Mutation) : Phase (Except Errors (CodeRun × Bool)) := do
  let (_, result) ← mutateFrom service runID (fun _ _ _ => ((), mutation)) maxCASAttempts [] ()
  return result

/-- `mutate`, without saying whether a record was saved. -/
def mutateRecord (runID : String) (mutation : Mutation) : Phase (Except Errors CodeRun) := do
  return (← mutate service runID mutation).map Prod.fst

/-- `beginStage`: the record and whether this call started the attempt. -/
def beginAttempt (runID name : String) (status : Status) : Phase (Except Errors (CodeRun × Bool)) := do
  return (← mutate service runID (.begin name status)).map fun (record, saved) =>
    (record, saved && !record.terminal)

/-- The attempt of a stage that was started last; a stage without one is owned by its zero attempt. -/
def latestOwnership (record : CodeRun) (name : String) : Ownership :=
  ((latestStage record.stages name).map ownershipOf).getD ⟨name, 0, 0⟩

def ownershipFor (record : CodeRun) (name : String) : Except Errors Ownership :=
  match latestStage record.stages name with
  | some latest =>
    if latest.status = .running then .ok (ownershipOf latest)
    else .error [.text ("capture " ++ name ++ " ownership: no running attempt")]
  | none => .error [.text ("capture " ++ name ++ " ownership: no running attempt")]

def finishedStageAttempt (record : CodeRun) (name : String) (attempt : Nat) : Bool :=
  (latestStage record.stages name).any fun latest => latest.attempts = attempt && latest.status ≠ .running

/-- The result of `finishFailure` after its mutation. -/
def failureResult (failure : Failure) (cause : Errors) (expected : Option Nat)
    (result : Except Errors CodeRun) : Returned :=
  match result with
  | .error errors => ({}, .phase failure :: cause ++ errors)
  | .ok record =>
    if expected.any (!finishedStageAttempt record failure.stage ·) then
      if record.terminal || record.baseSHA ≠ "" then (phaseResult record, []) else phaseInProgress record
    else (phaseResult record, .phase failure :: cause)

/-- `finishFailure` on behalf of an attempt. -/
def failStage (runID : String) (ownership : Ownership) (failure : Failure) (cause : Errors)
    (expected : Option Nat) : Phase Returned := do
  return failureResult failure cause expected
    (← mutateRecord service runID (.finishFailure ownership failure expected))

/-- `finishFailure` with the attempt that is expected to run. -/
def failAttempt (runID : String) (ownership : Ownership) (failure : Failure) (cause : Errors) : Phase Returned :=
  failStage service runID ownership failure cause (some ownership.attempt)

/-- `Load` with the checks of `validateRunBinding`; an error comes with the record, if one was loaded. -/
def loadBound (runID : String) : Phase (Except (Option CodeRun × Errors) (CodeRun × Input)) := do
  match ← ask (.load runID) with
  | .error errors => return .error (none, errors)
  | .ok record => match validateRunBinding service record with
    | .error errors => return .error (some record, errors)
    | .ok input => return .ok (record, input)

def refused (error : Option CodeRun × Errors) : Returned := (resultOf error.1, error.2)

end Paje.CodeChange
