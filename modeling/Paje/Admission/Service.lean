import Paje.Admission.Replay

/-!
The admission service: the outcome that each operation builds over a projection, and one iteration
of the commit loop that all of them share.
-/

namespace Paje.Admission

open Text Journal

def saturatingAdd (left right : UInt64) : UInt64 :=
  if (18446744073709551615 : UInt64) - left < right then 18446744073709551615 else left + right

def saturatingSub (left right : UInt64) : UInt64 := if right > left then 0 else left - right

def ceilQuantum (weight : UInt64) : Except Error UInt64 := do
  require (weight ≠ 0) (.typed .invalidRequest none .invalidPolicy)
  return 1 + (1024 - 1) / weight

def saturatingCap (value cap : UInt64) : UInt64 := if value > cap then cap else value

variable [sha : Sha]

/-- A service as `New` accepts it. Its cache is part of the running system. -/
structure Service where
  policy : Policy
  scannerAuthority : String
  policyValid : policy.validate = .ok ()
  authorityBounded : scannerAuthority.utf8ByteSize ≤ 128

def Service.policyDigest (s : Service) : String := digest (.admissionPolicy s.policy)

/-- One saturating counter of `limitingQuota`: the admitted records that `counts` selects. -/
def quotaCount (p : Projection) (counts : RunAdmission → Bool) : UInt64 :=
  p.admissions.values.foldl (fun count value =>
    if value.state = .admitted ∧ counts value then saturatingAdd count 1 else count) 0

def limitingQuota (s : Service) (p : Projection) (request : AdmissionRequest) : QuotaKind :=
  let subject := request.subject
  let fixtures : List (QuotaKind × UInt64 × UInt64) := [
    (.installation, quotaCount p (fun _ => true), s.policy.installationLimit),
    (.principal, quotaCount p (fun value => value.subject.principalID = subject.principalID),
      s.policy.principalLimit),
    (.run, quotaCount p (fun value => value.controlRunID = request.controlRunID), s.policy.runLimit),
    (.project, quotaCount p (fun value => value.subject.projectID = subject.projectID), s.policy.projectLimit),
    (.primitive, quotaCount p (fun value => value.subject.primitive = subject.primitive), s.policy.primitiveLimit)]
  match fixtures.find? (fun fixture => fixture.2.1 ≥ fixture.2.2) with
  | some fixture => fixture.1
  | none => .none

section Builders

variable (s : Service) (p : Projection) (binding : SemanticBinding)

def refused (operation : SemanticOperation) (code : ErrorCode) (cause : Cause) : Error :=
  .typed code (some operation) cause

def buildReserve (request : AdmissionRequest) (requestDigest : String) : Except Error Effect := do
  require (p.admissions.get? (scopedID request.controlRunID request.subject.id) = none)
    (refused .admissionReserve .conflict .conflict)
  return .admission {
    controlRunID := request.controlRunID
    subject := request.subject
    state := .reserved
    graphRevision := binding.graphRevision
    generation := binding.generation
    policyVersion := s.policy.version
    policyDigest := s.policyDigest
    originalRequestDigest := requestDigest
    receiptID := opaqueReceiptID .admissionReserve binding requestDigest }

/-- The builder of `admissionStateTransition`, for enqueue, admit and defer. -/
def buildAdmissionState (request : AdmissionRequest) (operation : SemanticOperation)
    (state : AdmissionState) (limiter : QuotaKind) : Except Error Effect :=
  match p.admissions.get? (scopedID request.controlRunID request.subject.id) with
  | none => .error (refused operation .notFound .notFound)
  | some prior => do
    require (prior.subject = request.subject ∧ prior.state ≠ .released ∧ prior.state ≠ .admitted)
      (refused operation .conflict .conflict)
    require ((operation = .queueAdmit → limitingQuota s p request = .none) ∧
      (operation = .backpressureDefer → limitingQuota s p request = limiter)) .decisionChanged
    return .admission { prior with
      state
      limitingQuota := limiter
      generation := binding.generation
      graphRevision := binding.graphRevision
      policyVersion := s.policy.version
      policyDigest := s.policyDigest
      receiptID := opaqueReceiptID operation binding prior.originalRequestDigest
      sequence := 0 }

def buildRelease (request : AdmissionRequest) (operation : SemanticOperation) (now : Time) : Except Error Effect :=
  match p.admissions.get? (scopedID request.controlRunID request.subject.id) with
  | none => .error (refused operation .notFound .notFound)
  | some prior => do
    require (prior.subject = request.subject ∧ prior.state ≠ .released)
      (refused operation .conflict .conflict)
    require (releaseOperation prior.state = operation) .decisionChanged
    return .admissionTombstone {
      controlRunID := request.controlRunID
      subject := request.subject
      graphRevision := binding.graphRevision
      generation := binding.generation
      policyVersion := s.policy.version
      policyDigest := s.policyDigest
      originalRequestDigest := prior.originalRequestDigest
      terminalReceiptID := opaqueReceiptID operation binding prior.originalRequestDigest
      releasedAt := now }

/-- Another active lease on the same resource, either side exclusive. -/
def conflictingLease (controlRunID : String) (subject : LeaseSubject) : Prop :=
  ∃ entry ∈ p.leases.entries, entry.2.state = .active ∧ entry.1 ≠ scopedID controlRunID subject.id ∧
    entry.2.subject.resource = subject.resource ∧
    (entry.2.subject.mode = .exclusive ∨ subject.mode = .exclusive)

instance (controlRunID : String) (subject : LeaseSubject) : Decidable (conflictingLease p controlRunID subject) := by
  unfold conflictingLease
  infer_instance

def buildAcquireLease (request : LeaseRequest) (requestDigest : String) (now : Time) : Except Error Effect := do
  require (now < request.expiresAt) (refused .leaseAcquire .terminal .terminal)
  require (p.leases.get? (scopedID request.controlRunID request.subject.id) = none)
    (refused .leaseAcquire .conflict .conflict)
  require (¬ conflictingLease p request.controlRunID request.subject)
    (refused .leaseAcquire .leaseBusy .leaseBusy)
  return .lease {
    controlRunID := request.controlRunID
    subject := request.subject
    state := .active
    issuedAt := now
    expiresAt := request.expiresAt
    generation := binding.generation
    graphRevision := binding.graphRevision
    originalRequestDigest := requestDigest
    receiptID := opaqueReceiptID .leaseAcquire binding requestDigest }

def buildRenewLease (request : LeaseRequest) (now : Time) : Except Error Effect := do
  require (now < request.expiresAt) (refused .leaseRenew .terminal .terminal)
  match p.leases.get? (scopedID request.controlRunID request.subject.id) with
  | none => .error (refused .leaseRenew .notFound .notFound)
  | some prior =>
    require (prior.subject = request.subject) (refused .leaseRenew .conflict .conflict)
    require (prior.state = .active ∧ now < prior.expiresAt) (refused .leaseRenew .terminal .terminal)
    require (prior.generation < binding.generation ∧ prior.expiresAt < request.expiresAt)
      (refused .leaseRenew .conflict .conflict)
    return .lease { prior with
      expiresAt := request.expiresAt
      generation := binding.generation
      graphRevision := binding.graphRevision
      receiptID := opaqueReceiptID .leaseRenew binding prior.originalRequestDigest }

/-- The builder of `terminalLease`, for release and expiry. -/
def buildTerminalLease (request : LeaseRequest) (operation : SemanticOperation) (state : LeaseState)
    (now : Time) : Except Error Effect :=
  match p.leases.get? (scopedID request.controlRunID request.subject.id) with
  | none => .error (refused operation .notFound .notFound)
  | some prior => do
    require (prior.subject = request.subject) (refused operation .conflict .conflict)
    require (prior.expiresAt = request.expiresAt) (refused operation .conflict .conflict)
    require (prior.state = .active) (refused operation .terminal .terminal)
    require (state = .expired → prior.expiresAt ≤ now) (refused operation .notExpired .notExpired)
    return .leaseTombstone {
      controlRunID := request.controlRunID
      subject := request.subject
      state
      issuedAt := prior.issuedAt
      expiresAt := prior.expiresAt
      generation := binding.generation
      graphRevision := binding.graphRevision
      originalRequestDigest := prior.originalRequestDigest
      terminalReceiptID := opaqueReceiptID operation binding prior.originalRequestDigest
      terminalAt := now }

def buildHandoff (request : HandoffRequest) (operation : SemanticOperation) (state : HandoffState)
    (requestDigest : String) : Except Error Effect := do
  let id := handoffID request.controlRunID (digest (.admissionSubject (.evidenceHandoff request.subject)))
  let key := scopedID request.controlRunID id
  match p.handoffs.get? key with
  | some prior =>
    require (state ≠ .issued ∧ prior.subject = request.subject ∧
      prior.receiptID = request.predecessorReceiptID ∧ validHandoffTransition prior.state state)
      (refused operation .conflict .conflict)
  | none =>
    if state ≠ .issued then
      require (∀ owner ∈ p.handoffReceipts.get? request.predecessorReceiptID, owner = key)
        (refused operation .conflict .conflict)
      .error (refused operation .notFound .notFound)
  return .handoff {
    id
    controlRunID := request.controlRunID
    subject := request.subject
    state
    receiptID := opaqueReceiptID operation binding requestDigest
    predecessorReceiptID := request.predecessorReceiptID }

/-- `normalizeRecoveryIdentity`, with the operation that the caller's error names. -/
def normalizeRecoveryIdentity (identity : RecoveryIdentity) (operation : SemanticOperation) :
    Except Error RecoveryIdentity := do
  require (identity.installationID ≠ "" → identity.installationID = p.installationID)
    (refused operation .conflict .conflict)
  return { identity with installationID := p.installationID }

def buildStartObservation (request : RecoveryRequest) (requestDigest : String) : Except Error Effect := do
  let identity ← normalizeRecoveryIdentity p request.recovery .startObservation
  require (p.recoveries.get? (recoveryIndex identity) = none)
    (refused .startObservation .conflict .conflict)
  require (mayStart (latestRecovery p identity) identity)
    (refused .startObservation .conflict .conflict)
  return .recovery {
    identity
    state := .observationStarted
    receiptID := opaqueReceiptID .startObservation binding requestDigest }

def isLatest (identity : RecoveryIdentity) : Prop :=
  ∀ latest ∈ latestRecovery p identity, latest.identity.generation ≤ identity.generation

instance (identity : RecoveryIdentity) : Decidable (isLatest p identity) := by
  unfold isLatest
  infer_instance

def buildCancelOrFence (request : FenceRequest) (state : RecoveryState) (requestDigest : String) :
    Except Error Effect := do
  let identity ← normalizeRecoveryIdentity p request.recovery .scannerApply
  match p.recoveries.get? (recoveryIndex identity) with
  | none => .error (refused .cancelOrFence .notFound .notFound)
  | some prior =>
    require (isLatest p identity) (refused .cancelOrFence .fenced .fenced)
    require (prior.state = .observationStarted ∨ prior.state = .effectObserved)
      (refused .cancelOrFence .conflict .conflict)
    return .recovery {
      identity
      state
      receiptID := opaqueReceiptID .cancelOrFence binding requestDigest
      fact := some ⟨request.proof.status, request.proof.receiptID, identity.subjectDigest⟩ }

def buildScannerApply (request : ScannerApplyRequest) (requestDigest : String) : Except Error Effect := do
  let identity ← normalizeRecoveryIdentity p request.recovery .scannerApply
  match p.recoveries.get? (recoveryIndex identity) with
  | none => .error (refused .scannerApply .notFound .notFound)
  | some prior =>
    require (isLatest p identity) (refused .scannerApply .fenced .fenced)
    require (prior.state ≠ .canceled ∧ prior.state ≠ .notPerformed ∧ prior.state ≠ .fenced)
      (refused .scannerApply .fenced .fenced)
    require (prior.state = .observationStarted ∨ prior.state = .effectObserved)
      (refused .scannerApply .conflict .conflict)
    match appliedState request.fact.status with
    | none => .error (refused .scannerApply .ambiguous .ambiguous)
    | some state =>
      return .recovery {
        identity
        state
        receiptID := opaqueReceiptID .scannerApply binding requestDigest
        fact := some request.fact }

end Builders

inductive Call where
  | reserve (request : AdmissionRequest)
  | enqueue (request : AdmissionRequest)
  | admitRun (request : AdmissionRequest)
  | release (request : AdmissionRequest)
  | acquireLease (request : LeaseRequest)
  | renewLease (request : LeaseRequest)
  | releaseLease (request : LeaseRequest)
  | expireLease (request : LeaseRequest)
  | issueHandoff (request : HandoffRequest)
  | grantHandoff (request : HandoffRequest)
  | acknowledgeHandoff (request : HandoffRequest)
  | startObservation (request : RecoveryRequest)
  | cancelOrFence (request : FenceRequest)
  | scannerApply (request : ScannerApplyRequest)
  deriving DecidableEq

def validateAdmissionRequest (request : AdmissionRequest) : Except Error Unit := do
  require (bounded request.controlRunID 128) invalidRequest
  request.identity.validate
  request.subject.validate

def validateLeaseRequest (request : LeaseRequest) : Except Error Unit := do
  require (bounded request.controlRunID 128 ∧ ¬ request.expiresAt.IsZero) invalidRequest
  request.identity.validate
  request.subject.validate

def validateHandoffRequest (request : HandoffRequest) (state : HandoffState) : Except Error Unit := do
  require (bounded request.controlRunID 128 ∧ request.predecessorReceiptID.utf8ByteSize ≤ 128)
    invalidRequest
  require ((state = .issued → request.predecessorReceiptID = "") ∧
    (state ≠ .issued → bounded request.predecessorReceiptID 128)) invalidRequest
  request.identity.validate
  require (request.identity.graphRevision = request.subject.graphRevision) invalidRequest
  request.subject.validate

def Call.validate (s : Service) : Call → Except Error Unit
  | .reserve request | .enqueue request | .admitRun request | .release request =>
    validateAdmissionRequest request
  | .acquireLease request | .renewLease request | .releaseLease request | .expireLease request =>
    validateLeaseRequest request
  | .issueHandoff request => validateHandoffRequest request .issued
  | .grantHandoff request => validateHandoffRequest request .granted
  | .acknowledgeHandoff request => validateHandoffRequest request .acknowledged
  | .startObservation request => do
    request.identity.validate
    request.recovery.validate
  | .cancelOrFence request => do
    request.identity.validate
    request.recovery.validate
    require (bounded request.proof.receiptID 128 ∧ (fencedState request.proof.status).isSome)
      (refused .cancelOrFence .invalidRequest .invalidRecord)
  | .scannerApply request => do
    require (s.scannerAuthority ≠ "" ∧ request.scannerAuthority = s.scannerAuthority)
      (refused .scannerApply .unauthorized .unauthorized)
    request.identity.validate
    request.recovery.validate
    validateProviderFact request.fact request.recovery.subjectDigest
    require (request.fact.status ≠ .ambiguous) (refused .scannerApply .ambiguous .ambiguous)

/-- A call whose semantic operation is chosen: the arguments of `commitTransition`. -/
inductive Plan where
  | reserve (request : AdmissionRequest)
  | stateTransition (request : AdmissionRequest) (operation : SemanticOperation) (state : AdmissionState)
    (limiter : QuotaKind)
  | release (request : AdmissionRequest) (operation : SemanticOperation)
  | acquireLease (request : LeaseRequest)
  | renewLease (request : LeaseRequest)
  | terminalLease (request : LeaseRequest) (operation : SemanticOperation) (state : LeaseState)
  | handoff (request : HandoffRequest) (operation : SemanticOperation) (state : HandoffState)
  | startObservation (request : RecoveryRequest)
  | cancelOrFence (request : FenceRequest) (state : RecoveryState)
  | scannerApply (request : ScannerApplyRequest)

structure Transition where
  controlRunID : String
  identity : TransitionIdentity
  operation : SemanticOperation
  subject : Subject
  predecessorDigest : String := ""

def leaseSubject (request : LeaseRequest) : Subject := .leaseRequest ⟨request.subject, request.expiresAt⟩

def Plan.transition : Plan → Transition
  | .reserve request =>
    ⟨request.controlRunID, request.identity, .admissionReserve, .runAdmission request.subject, ""⟩
  | .stateTransition request operation _ _ =>
    ⟨request.controlRunID, request.identity, operation, .runAdmission request.subject, ""⟩
  | .release request operation =>
    ⟨request.controlRunID, request.identity, operation, .runAdmission request.subject, ""⟩
  | .acquireLease request =>
    ⟨request.controlRunID, request.identity, .leaseAcquire, leaseSubject request, ""⟩
  | .renewLease request =>
    ⟨request.controlRunID, request.identity, .leaseRenew, leaseSubject request, ""⟩
  | .terminalLease request operation _ =>
    ⟨request.controlRunID, request.identity, operation, leaseSubject request, ""⟩
  | .handoff request operation _ =>
    ⟨request.controlRunID, request.identity, operation, .evidenceHandoff request.subject,
      if request.predecessorReceiptID = "" then ""
      else digest (.receiptReference request.predecessorReceiptID)⟩
  | .startObservation request =>
    ⟨request.recovery.controlRunID, request.identity, .startObservation, .recoveryIdentity request.recovery, ""⟩
  | .cancelOrFence request _ =>
    ⟨request.recovery.controlRunID, request.identity, .cancelOrFence,
      .recoveryFence ⟨request.recovery, request.proof⟩, ""⟩
  | .scannerApply request =>
    ⟨request.recovery.controlRunID, request.identity, .scannerApply, .recoveryScannerApply ⟨request.recovery,
        stableID "scanner_authority" [request.scannerAuthority], request.fact⟩, ""⟩

/-- The outcome that the plan's builder makes over `p`; `now` is its clock reading. -/
def Plan.build (s : Service) (plan : Plan) (p : Projection) (binding : SemanticBinding)
    (requestDigest : String) (now : Time) : Except Error Effect :=
  match plan with
  | .reserve request => buildReserve s p binding request requestDigest
  | .stateTransition request operation state limiter =>
    buildAdmissionState s p binding request operation state limiter
  | .release request operation => buildRelease s p binding request operation now
  | .acquireLease request => buildAcquireLease p binding request requestDigest now
  | .renewLease request => buildRenewLease p binding request now
  | .terminalLease request operation state =>
    buildTerminalLease p binding request operation state now
  | .handoff request operation state => buildHandoff p binding request operation state requestDigest
  | .startObservation request => buildStartObservation p binding request requestDigest
  | .cancelOrFence request state => buildCancelOrFence p binding request state requestDigest
  | .scannerApply request => buildScannerApply p binding request requestDigest

/-- The plan of a call. `Admit` and `Release` choose their operation by what a first read `p` says;
the other calls read nothing for it. -/
def Call.plan (s : Service) (call : Call) (p : Projection) : Except Error Plan :=
  match call with
  | .reserve request => .ok (.reserve request)
  | .enqueue request => .ok (.stateTransition request .queueEnqueue .queued .none)
  | .admitRun request =>
    let limiter := limitingQuota s p request
    if limiter ≠ .none then .ok (.stateTransition request .backpressureDefer .deferred limiter)
    else .ok (.stateTransition request .queueAdmit .admitted limiter)
  | .release request =>
    match p.admissions.get? (scopedID request.controlRunID request.subject.id) with
    | none => .error (refused .admissionRelease .notFound .notFound)
    | some prior => .ok (.release request (releaseOperation prior.state))
  | .acquireLease request => .ok (.acquireLease request)
  | .renewLease request => .ok (.renewLease request)
  | .releaseLease request => .ok (.terminalLease request .leaseRelease .released)
  | .expireLease request => .ok (.terminalLease request .leaseExpire .expired)
  | .issueHandoff request => .ok (.handoff request .handoffIssue .issued)
  | .grantHandoff request => .ok (.handoff request .handoffGrant .granted)
  | .acknowledgeHandoff request => .ok (.handoff request .handoffAcknowledge .acknowledged)
  | .startObservation request => .ok (.startObservation request)
  | .cancelOrFence request =>
    match fencedState request.proof.status with
    | none => .error (refused .cancelOrFence .invalidRequest .invalidRecord)
    | some state => .ok (.cancelOrFence request state)
  | .scannerApply request => .ok (.scannerApply request)

/-! ### One iteration of `commitTransition` -/

def Transition.binding (t : Transition) (installationID : String) : SemanticBinding where
  actionID := t.identity.actionID
  attemptID := t.identity.attemptID
  controlRunID := t.controlRunID
  generation := t.identity.generation
  graphRevision := t.identity.graphRevision
  idempotencyKey := t.identity.idempotencyKey
  installationID := installationID
  outcomeEventID := t.identity.outcomeEventID
  outcomeKind := t.identity.outcomeKind
  semanticOperation := t.operation
  subjectDigest := digest (.admissionSubject t.subject)
  taskID := t.identity.taskID

def Service.request (s : Service) (t : Transition) (installationID : String) : RequestEnvelope where
  binding := t.binding installationID
  component := component
  predecessorDigest := t.predecessorDigest
  policyDigest := if isRunAdmission t.subject then s.policyDigest else ""
  policyVersion := if isRunAdmission t.subject then s.policy.version else 0
  schemaVersion := schemaVersion
  semanticOperation := t.operation
  subject := t.subject
  subjectDigest := digest (.admissionSubject t.subject)

def outcomeOf (request : RequestEnvelope) (effect : Effect) : OutcomeEnvelope where
  effect := effect
  binding := request.binding
  component := component
  predecessorDigest := request.predecessorDigest
  policyDigest := request.policyDigest
  policyVersion := request.policyVersion
  schemaVersion := schemaVersion
  semanticOperation := request.semanticOperation
  subject := request.subject
  subjectDigest := request.subjectDigest

def Projection.actionOf (p : Projection) (request : RequestEnvelope) : Action where
  id := internalActionID request.binding
  controlRunID := request.binding.controlRunID
  taskID := request.binding.taskID
  attemptID := request.binding.attemptID
  kind := operationKind request.semanticOperation
  graphRevision := request.binding.graphRevision
  expectedProjection := p.head request.binding.controlRunID
  canonicalRequestDigest := digest (.admissionRequest request)
  idempotencyKey := internalIdempotencyKey request.binding

def outcomeEvent (request : RequestEnvelope) (outcome : OutcomeEnvelope) (occurredAt : Time) : Event where
  id := internalOutcomeID request.binding
  controlRunID := request.binding.controlRunID
  actionID := internalActionID request.binding
  kind := request.binding.outcomeKind
  payloadDigest := digest (.admissionOutcome outcome)
  occurredAt := occurredAt

def View.commitRequest (p : View) (request : RequestEnvelope) (outcome : OutcomeEnvelope)
    (occurredAt : Time) : CommitRequest where
  action := p.actionOf request
  expectedRun := ⟨p.installationID, request.binding.controlRunID, Journal.schemaVersion,
    p.head request.binding.controlRunID⟩
  expectedGlobal := p.global
  requestPayload := .admissionRequest request
  outcome := outcomeEvent request outcome occurredAt
  outcomePayload := .admissionOutcome outcome

/-- An earlier transition under the semantic key, else under the idempotency key: exactly this
request, or a conflict. -/
def Projection.existing (p : Projection) (t : Transition) (request : RequestEnvelope) :
    Option (Except Error TransitionRecord) :=
  let found := (p.transitions.get?
      (semanticIndex t.controlRunID t.identity.actionID t.identity.generation)).orElse fun _ =>
    p.idempotency.get? (idempotencyIndex t.controlRunID t.identity.idempotencyKey)
  found.map fun record =>
    if record.request = request ∧ record.binding = request.binding then
      .ok { record with receipt := { record.receipt with created := false } }
    else .error (refused t.operation .conflict .conflict)

/-- The request, outcome and commit that the plan makes over `p`. -/
def Plan.prepare (s : Service) (plan : Plan) (p : View) (now occurredAt : Time) :
    Except Error (OutcomeEnvelope × CommitRequest) := do
  let t := plan.transition
  let request := s.request t p.installationID
  require (t.identity.outcomeKind = .actionResult) (refused t.operation .invalidRequest .invalidRecord)
  let effect ← plan.build s p.toProjection request.binding (digest (.admissionRequest request)) now
  let outcome := outcomeOf request effect
  validateOutcomeSemantics request outcome
  return (outcome, p.commitRequest request outcome occurredAt)

inductive Verdict where
  | returned (record : TransitionRecord) (created : Bool)
  | failed (error : Error)
  | again

/-- After a failed commit: the transition may be visible all the same; a conflict is tried again. -/
def Projection.recovered (t : Transition) (request : RequestEnvelope) (commitError : Journal.Error)
    (rebuilt : Except Error View) : Verdict :=
  let found := match rebuilt with
    | .ok p => p.transitions.get?
        (semanticIndex t.controlRunID t.identity.actionID t.identity.generation)
    | .error _ => none
  match found with
  | some record =>
    if record.request = request ∧ record.binding = request.binding then
      .returned { record with receipt := { record.receipt with created := false } } false
    else .failed (refused t.operation .conflict .conflict)
  | none => if commitError = .conflict then .again else .failed (storeError (some t.operation) commitError)

def attempt (s : Service) (plan : Plan) (p : View) (store : MemoryStore) (cache : Option View)
    (now occurredAt : Time) : Verdict × MemoryStore × Option View :=
  let t := plan.transition
  let request := s.request t p.installationID
  match p.existing t request with
  | some (.ok record) => (.returned record false, store, cache)
  | some (.error e) => (.failed e, store, cache)
  | none =>
    match plan.prepare s p now occurredAt with
    | .error e => (.failed e, store, cache)
    | .ok (outcome, commitRequest) =>
      match store.commit commitRequest with
      | .ok (receipt, after) =>
        (.returned { binding := request.binding, request, outcome, receipt } receipt.created, after, cache)
      | .error commitError =>
        let (rebuilt, cache) := rebuild store cache
        (Projection.recovered t request commitError rebuilt, store, cache)

end Paje.Admission
