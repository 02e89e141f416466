import Paje.CodeChange.Ports

/-!
The resolve phase: a run is reserved for a normalized input, and the revision, the worker profile with its
secret bindings and the memories are frozen in its record.
-/

namespace Paje.CodeChange

open Text Run

variable [digests : Digests] (service : Service)

/-- `executor.Registry.Resolve`. -/
def resolveExecutor (profile : Profile) : Except Errors Unit := do
  require (profile.Exact ∧ profile.digest ≠ "") [.text "executor profile snapshot is not exact and canonical"]
  match service.executor profile.runtime.kind with
  | none => .error [.text "executor runtime is not registered"]
  | some validateProfile => require (validateProfile profile = []) (validateProfile profile)

/-- `harness.Registry.Resolve`. -/
def resolveAdapter (profile : Profile) : Except Errors Adapter := do
  require (profile.Exact ∧ profile.digest ≠ "") [.text "harness profile snapshot is not exact and canonical"]
  match service.adapters.find? fun adapter =>
      adapter.id ++ "@" ++ adapter.version = profile.harness.id ++ "@" ++ profile.harness.version with
  | none => .error [.text "exact harness is not registered"]
  | some adapter => do
    require (adapter.id = profile.harness.id ∧ adapter.version = profile.harness.version)
      [.text "registered harness identity was rebound"]
    require (∀ requirement ∈ profile.secrets, beginsWith "harness." requirement.capability →
      adapter.acceptsCapability requirement.capability)
      [.text "harness capability is not recognized by exact adapter"]
    return adapter

/-- `ResolveAgent`: the adapter with the environment of the agent. -/
def resolveAgent (profile : Profile) : Except Errors (Adapter × Table String) := do
  let adapter ← resolveAdapter service profile
  let environment ← adapter.agentEnvironment profile.secrets
  return (adapter, environment)

def resolveFailureOf (failureClass : FailureClass) (retryable : Bool) (diagnostic causeCode : String) : Failure :=
  ⟨"resolve", failureClass, retryable, diagnostic, causeCode⟩

abbrev Refusal := Failure × Errors

def checkProfile (id : ProfileID) (canceled : Bool) (answer : Except Errors Profile) : Except Refusal Profile :=
  match answer with
  | .error errors =>
    if canceled || .canceled ∈ errors then .error (canceledFailure "resolve", errors)
    else if .profileNotFound ∈ errors then
      .error (resolveFailureOf .input false "worker profile does not exist" "worker_profile_not_found", errors)
    else .error (resolveFailureOf .environment true "worker profile registry is temporarily unavailable"
      "worker_profile_unavailable", errors)
  | .ok profile => do
    require (canceled = false) (canceledFailure "resolve", [.canceled])
    require (profile.Exact ∧ profile.digest ≠ "" ∧ profile.id = id)
      (resolveFailureOf .internal false "worker profile registry returned an invalid snapshot"
        "invalid_worker_profile_snapshot", [.text "worker profile registry response failed exact validation"])
    relabel (fun errors => (resolveFailureOf .input false "worker profile runtime is unsupported"
      "unsupported_worker_profile_runtime", errors)) (resolveExecutor service profile)
    let _ ← relabel (fun errors => (resolveFailureOf .input false "worker profile harness is unsupported"
      "unsupported_worker_profile_harness", errors)) (resolveAdapter service profile)
    return profile

def requirementRef (requirement : SecretRequirement) : BindingRef :=
  ⟨requirement.capability, requirement.bindingRevision⟩

/-- `Authorizes`; every requirement of a canonical profile is required and for the agent. -/
def SecretBinding.authorizes (binding : SecretBinding) (id : ProfileID) (requirement : SecretRequirement) : Bool :=
  binding.ref = requirementRef requirement && binding.profileID = id && binding.delivery = requirement.delivery &&
    binding.target = requirement.target

def checkBinding (id : ProfileID) (requirement : SecretRequirement) (canceled : Bool)
    (answer : Except Errors SecretBinding) : Except Refusal BindingRef :=
  match answer with
  | .error errors =>
    if canceled || .canceled ∈ errors then .error (canceledFailure "resolve", errors)
    else if .bindingNotFound ∈ errors || .bindingUnauthorized ∈ errors then
      .error (resolveFailureOf .policy false "secret capability binding is not authorized"
        "secret_binding_unauthorized", errors)
    else .error (resolveFailureOf .environment true "secret binding registry is temporarily unavailable"
      "secret_binding_unavailable", errors)
  | .ok binding => do
    require (canceled = false) (canceledFailure "resolve", [.canceled])
    require (binding.authorizes id requirement)
      (resolveFailureOf .internal false "secret binding registry returned an invalid authorization"
        "invalid_secret_binding", [.text "secret binding response differs from request"])
    return requirementRef requirement

def resolveBindings (id : ProfileID) : List SecretRequirement → Phase (Except Refusal (List BindingRef))
  | [] => return .ok []
  | requirement :: rest => do
    let answer ← ask (.resolveBinding id requirement)
    let canceled ← ask .canceled
    match checkBinding id requirement canceled answer with
    | .error refusal => return .error refusal
    | .ok ref => return (← resolveBindings id rest).map (ref :: ·)

def selectResolvedWorker (record : CodeRun) (input : Input) : Phase (Except Refusal (Profile × List BindingRef)) := do
  match record.workerProfile with
  | some profile => return .ok (profile, record.secretBindings.getD [])
  | none => do
    let answer ← ask (.resolveProfile input.workerProfile)
    let canceled ← ask .canceled
    match checkProfile service input.workerProfile canceled answer with
    | .error refusal => return .error refusal
    | .ok profile => return (← resolveBindings profile.id profile.secrets).map (profile, ·)

def immutableRevision (sha : String) : Bool :=
  sha.length = 40 && sha.toList.all fun c => digit c || ('a' ≤ c && c ≤ 'f')

def checkRevision (input : Input) (canceled : Bool) (answer : Except Errors Revision) : Except Refusal String :=
  match answer with
  | .error errors =>
    if canceled || .canceled ∈ errors then .error (canceledFailure "resolve", errors)
    else .error (resolveFailureOf .environment true "repository revision is temporarily unavailable"
      "repository_unavailable", errors)
  | .ok revision => do
    require (revision.sourceDirty = false) (resolveFailureOf .input false "local repository source is dirty"
      "source_dirty", [.text "local repository source is dirty"])
    require (revision.repositoryURI = input.repositoryURI ∧ revision.ref = input.baseRef ∧
      immutableRevision revision.sha)
      (resolveFailureOf .internal false "repository resolver returned an invalid immutable revision"
        "invalid_revision", [.text "repository resolver returned an invalid revision"])
    return revision.sha

def scopedMemory (input : Input) : Phase (Except Refusal (List Memory)) := do
  if input.memoryLimit ≤ 0 then return .ok []
  else do
    let query := if input.memoryQuery = "" then input.taskDescription else input.memoryQuery
    match ← ask (.searchMemory query input.memoryLimit input.tags) with
    | .ok memories => return .ok memories
    | .error errors => do
      let canceled ← ask .canceled
      return .error (if canceled || .canceled ∈ errors then canceledFailure "resolve" else
        resolveFailureOf .internal true "scoped memory is temporarily unavailable" "memory_unavailable", errors)

/-- The end of `resolveReserved`, when the worker profile is stored. -/
def completeResolve (runID : String) (ownership : Ownership) (input : Input) (sha : String) (profile : Profile)
    (bindings : Nat) : Phase Returned := do
  match ← scopedMemory input with
  | .error (failure, cause) => failAttempt service runID ownership failure cause
  | .ok memories =>
    match ← mutateRecord service runID (.finishResolve ownership sha memories profile bindings) with
    | .error errors => return ({}, errors)
    | .ok record =>
      if record.baseSHA = "" && !record.terminal then return phaseInProgress record
      else return (phaseResult record, [])

/-- `resolveReserved` from the answer of `persistResolvedWorker` on. -/
def persistWorker (runID : String) (ownership : Ownership) (record : CodeRun) (input : Input) (sha : String)
    (profile : Profile) (bindings : List BindingRef) : Phase Returned := do
  match record.workerProfile with
  | some profile =>
    completeResolve service runID ownership input sha profile (record.secretBindings.getD []).length
  | none =>
    match ← mutateRecord service runID (.persistWorker ownership profile bindings) with
    | .error errors => return ({}, errors)
    | .ok record => match record.workerProfile with
      | none => return phaseInProgress record
      | some profile =>
        completeResolve service runID ownership input sha profile (record.secretBindings.getD []).length

def resolveReserved (runID : String) (input : Input) : Phase Returned := do
  match ← beginAttempt service runID "resolve" .resolving with
  | .error errors => return ({}, errors)
  | .ok (record, started) =>
    if !started then
      if record.baseSHA ≠ "" || record.terminal then return (phaseResult record, [])
      else return phaseInProgress record
    else if record.baseSHA ≠ "" then return (phaseResult record, [])
    else do
      let ownership := latestOwnership record "resolve"
      let answer ← ask (.resolveRevision input.repositoryURI input.baseRef)
      let canceled ← ask .canceled
      match checkRevision input canceled answer with
      | .error (failure, cause) => failAttempt service runID ownership failure cause
      | .ok sha =>
        match ← selectResolvedWorker service record input with
        | .error (failure, cause) => failAttempt service runID ownership failure cause
        | .ok (profile, bindings) => persistWorker service runID ownership record input sha profile bindings

/-- `decodeInput` of a document that may lack a memory limit. -/
def decodeInput (document : Input) (memoryLimitSet : Bool) : Except Errors Input := do
  let input ← liftText (normalizeAndValidate document memoryLimitSet)
  match input.publication.mode with
  | .artifact => return input
  | .pullRequest => do
    let repositoryURI ← liftText (canonicalGitHubRepository service input.repositoryURI)
    return { input with repositoryURI }

def reservationFor (runID : String) (input : Input) (createdAt : Time) : Reservation Input where
  newRunID := runID
  template := codeChangeID
  idempotencyKey := input.idempotencyKey
  inputHash := digests.input input
  input
  repositoryURI := input.repositoryURI
  baseRef := input.baseRef
  publicationMode := input.publication.mode
  createdAt

def resolve (runID : String) (document : Input) (memoryLimitSet requireOwner : Bool) : Phase Returned := do
  match decodeInput service document memoryLimitSet with
  | .error errors => return ({}, errors)
  | .ok input => do
    let createdAt ← ask .clock
    match ← ask (.reserve (reservationFor runID input createdAt)) with
    | .error error => return refused error
    | .ok (record, created) =>
      if requireOwner && !created && record.id ≠ runID then
        return ({}, [.text ("resolve code-change input: durable run \"" ++ record.id ++
          "\" is owned by another trigger"), .run .idempotencyConflict])
      else if !created && (record.baseSHA ≠ "" || record.terminal) then return (phaseResult record, [])
      else resolveReserved service record.id input

def resolveWithRunID (runID : String) (document : Input) (memoryLimitSet : Bool) : Phase Returned :=
  if blank runID then return ({}, [.text "resolve code-change input: run ID is required"])
  else resolve service runID document memoryLimitSet true

end Paje.CodeChange
