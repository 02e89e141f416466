import Paje.Journal.Log

/-!
The admission projection: what a replay of the journal knows, and the checks on each persisted
transition.
-/

namespace Paje.Admission

open Text Journal

variable [sha : Sha]

def scopedID (runID value : String) : String := runID ++ "\x00" ++ value

def semanticIndex (runID actionID : String) (generation : Nat) : String :=
  runID ++ "\x00" ++ actionID ++ "\x00" ++ toString generation

def idempotencyIndex (runID key : String) : String := scopedID runID key

def recoveryIndex (identity : RecoveryIdentity) : String :=
  identity.installationID ++ "\x00" ++ identity.controlRunID ++ "\x00" ++ identity.actionID ++
    "\x00" ++ toString identity.generation

def internalActionID (binding : SemanticBinding) : String :=
  stableID "admission_action"
    [binding.installationID, binding.controlRunID, binding.actionID, toString binding.generation]

def internalOutcomeID (binding : SemanticBinding) : String :=
  stableID "admission_outcome" [binding.installationID, binding.controlRunID, binding.outcomeEventID]

def internalIdempotencyKey (binding : SemanticBinding) : String :=
  stableID "admission_key" [binding.installationID, binding.controlRunID, binding.idempotencyKey]

def opaqueReceiptID (operation : SemanticOperation) (binding : SemanticBinding) (requestDigest : String) : String :=
  stableID "receipt" [operation.name, binding.installationID, binding.controlRunID, binding.actionID,
    toString binding.generation, requestDigest]

def handoffID (controlRunID subjectDigest : String) : String :=
  stableID "handoff" [controlRunID, subjectDigest]

structure TransitionRecord where
  binding : SemanticBinding
  request : RequestEnvelope
  outcome : OutcomeEnvelope
  receipt : CommitReceipt
  deriving DecidableEq

structure Projection where
  installationID : String := ""
  runHeads : Table Nat := ∅
  transitions : Table TransitionRecord := ∅
  idempotency : Table TransitionRecord := ∅
  admissions : Table RunAdmission := ∅
  admissionTombs : Table AdmissionTombstone := ∅
  leases : Table Lease := ∅
  leaseTombs : Table LeaseTombstone := ∅
  handoffs : Table EvidenceHandoff := ∅
  handoffReceipts : Table String := ∅
  recoveries : Table RecoveryRecord := ∅
  deriving DecidableEq

def newProjection : Projection := {}

structure View extends Projection where
  global : GlobalCursor
  deriving DecidableEq

def Projection.head (p : Projection) (controlRunID : String) : Nat :=
  (p.runHeads.get? controlRunID).getD 0

def Projection.withHead (p : Projection) (controlRunID : String) (sequence : Nat) : Projection :=
  { p with runHeads := p.runHeads.put controlRunID sequence }

/-! ### Checks on a persisted transition -/

/-- `typedError(CodeInvalidRecord, "", ErrInvalidRecord)`. -/
def invalidRecord : Error := .typed .invalidRecord none .invalidRecord

def invalidOutcome (operation : SemanticOperation) : Error :=
  .typed .invalidRecord (some operation) .invalidRecord

def validateOutcomeShape (outcome : OutcomeEnvelope) : Except Error Unit :=
  match outcome.semanticOperation, outcome.effect with
  | .admissionReserve, .admission _ | .queueEnqueue, .admission _ | .queueAdmit, .admission _
  | .backpressureDefer, .admission _ => .ok ()
  | .admissionRelease, .admissionTombstone _ | .queueRelease, .admissionTombstone _ => .ok ()
  | .leaseAcquire, .lease _ | .leaseRenew, .lease _ => .ok ()
  | .leaseRelease, .leaseTombstone _ | .leaseExpire, .leaseTombstone _ => .ok ()
  | .handoffIssue, .handoff _ | .handoffGrant, .handoff _ | .handoffAcknowledge, .handoff _ => .ok ()
  | .startObservation, .recovery _ | .cancelOrFence, .recovery _ | .scannerApply, .recovery _ => .ok ()
  | operation, _ => .error (invalidOutcome operation)

/-- The subject of a `run_admission` request that decodes and matches its digest. -/
def admissionSubjectOf (request : RequestEnvelope) (operation : SemanticOperation) : Except Error AdmissionSubject :=
  match request.subject with
  | .runAdmission subject => do
    require (request.predecessorDigest = "" ∧ subject.validate = .ok () ∧
      digest (.admissionSubject request.subject) = request.subjectDigest) (invalidOutcome operation)
    return subject
  | _ => .error (invalidOutcome operation)

def wantedAdmission (operation : SemanticOperation) (limiter : QuotaKind) : Option (AdmissionState × QuotaKind) :=
  match operation with
  | .admissionReserve => some (.reserved, .none)
  | .queueEnqueue => some (.queued, .none)
  | .queueAdmit => some (.admitted, .none)
  | .backpressureDefer => if limiter = .none then none else some (.deferred, limiter)
  | _ => none

section

variable (request : RequestEnvelope)

def validateAdmissionOutcome (outcome : OutcomeEnvelope)
    (value : RunAdmission) (requestDigest : String) : Except Error Unit := do
  let operation := outcome.semanticOperation
  let subject ← admissionSubjectOf request operation
  require (value.controlRunID = outcome.binding.controlRunID ∧ value.subject = subject ∧
    value.sequence = 0 ∧ value.graphRevision = outcome.binding.graphRevision ∧
    value.generation = outcome.binding.generation ∧ value.policyVersion = request.policyVersion ∧
    value.policyDigest = request.policyDigest ∧ validDigest value.originalRequestDigest ∧
    value.receiptID = opaqueReceiptID operation outcome.binding value.originalRequestDigest)
    (invalidOutcome operation)
  require (operation = .admissionReserve → value.originalRequestDigest = requestDigest)
    (invalidOutcome operation)
  require (wantedAdmission operation value.limitingQuota = some (value.state, value.limitingQuota))
    (invalidOutcome operation)

def validateAdmissionTombstoneOutcome (outcome : OutcomeEnvelope)
    (value : AdmissionTombstone) : Except Error Unit := do
  let operation := outcome.semanticOperation
  let subject ← admissionSubjectOf request operation
  require (value.controlRunID = outcome.binding.controlRunID ∧ value.subject = subject ∧
    value.graphRevision = outcome.binding.graphRevision ∧
    value.generation = outcome.binding.generation ∧ value.policyVersion = request.policyVersion ∧
    value.policyDigest = request.policyDigest ∧ validDigest value.originalRequestDigest ∧
    ¬ value.releasedAt.IsZero ∧
    value.terminalReceiptID = opaqueReceiptID operation outcome.binding value.originalRequestDigest)
    (invalidOutcome operation)

def decodeLeaseTransitionSubject (operation : SemanticOperation) : Except Error LeaseTransitionSubject :=
  match request.subject with
  | .leaseRequest subject => do
    require (request.predecessorDigest = "" ∧ subject.lease.validate = .ok () ∧ ¬ subject.expiresAt.IsZero ∧
      digest (.admissionSubject request.subject) = request.subjectDigest) (invalidOutcome operation)
    return subject
  | _ => .error (invalidOutcome operation)

def validateLeaseOutcome (outcome : OutcomeEnvelope) (value : Lease)
    (requestDigest : String) : Except Error Unit := do
  let operation := outcome.semanticOperation
  let subject ← decodeLeaseTransitionSubject request operation
  require (value.controlRunID = outcome.binding.controlRunID ∧ value.subject = subject.lease ∧
    value.state = .active ∧ ¬ value.issuedAt.IsZero ∧ value.expiresAt = subject.expiresAt ∧
    value.issuedAt < value.expiresAt ∧ value.generation = outcome.binding.generation ∧
    value.graphRevision = outcome.binding.graphRevision ∧ validDigest value.originalRequestDigest ∧
    value.receiptID = opaqueReceiptID operation outcome.binding value.originalRequestDigest)
    (invalidOutcome operation)
  require (operation = .leaseAcquire → value.originalRequestDigest = requestDigest)
    (invalidOutcome operation)

def validateLeaseTombstoneOutcome (outcome : OutcomeEnvelope)
    (value : LeaseTombstone) : Except Error Unit := do
  let operation := outcome.semanticOperation
  let subject ← decodeLeaseTransitionSubject request operation
  let wantState : LeaseState := if operation = .leaseExpire then .expired else .released
  require (value.controlRunID = outcome.binding.controlRunID ∧ value.subject = subject.lease ∧
    value.state = wantState ∧ ¬ value.issuedAt.IsZero ∧ value.expiresAt = subject.expiresAt ∧
    value.generation = outcome.binding.generation ∧
    value.graphRevision = outcome.binding.graphRevision ∧ validDigest value.originalRequestDigest ∧
    ¬ value.terminalAt.IsZero ∧
    value.terminalReceiptID = opaqueReceiptID operation outcome.binding value.originalRequestDigest)
    (invalidOutcome operation)

end

def handoffStateOf : SemanticOperation → HandoffState
  | .handoffGrant => .granted
  | .handoffAcknowledge => .acknowledged
  | _ => .issued

def validateHandoffOutcome (request : RequestEnvelope) (outcome : OutcomeEnvelope)
    (value : EvidenceHandoff) (requestDigest : String) : Except Error Unit := do
  let operation := outcome.semanticOperation
  match request.subject with
  | .evidenceHandoff subject =>
    require (subject.validate = .ok () ∧
      digest (.admissionSubject request.subject) = request.subjectDigest) (invalidOutcome operation)
    require (value.controlRunID = outcome.binding.controlRunID ∧ value.subject = subject ∧
      subject.graphRevision = outcome.binding.graphRevision ∧
      value.id = handoffID outcome.binding.controlRunID outcome.subjectDigest ∧
      value.state = handoffStateOf operation ∧ value.sequence = 0 ∧
      value.receiptID = opaqueReceiptID operation outcome.binding requestDigest)
      (invalidOutcome operation)
    if handoffStateOf operation = .issued then
      require (value.predecessorReceiptID = "" ∧ request.predecessorDigest = "")
        (invalidOutcome operation)
    else
      require (bounded value.predecessorReceiptID 128 ∧
        request.predecessorDigest = digest (.receiptReference value.predecessorReceiptID))
        (invalidOutcome operation)
  | _ => .error (invalidOutcome operation)

def fencedState : ProviderStatus → Option RecoveryState
  | .canceled => some .canceled
  | .notPerformed => some .notPerformed
  | .fenced => some .fenced
  | .effectObserved | .ambiguous => none

def appliedState : ProviderStatus → Option RecoveryState
  | .effectObserved => some .applied
  | .notPerformed => some .notPerformed
  | .canceled => some .canceled
  | .fenced => some .fenced
  | .ambiguous => none

def wantedRecovery (request : RequestEnvelope) (operation : SemanticOperation) :
    Option (RecoveryIdentity × RecoveryState × Option ProviderFact) :=
  match operation, request.subject with
  | .startObservation, .recoveryIdentity identity => some (identity, .observationStarted, none)
  | .cancelOrFence, .recoveryFence subject =>
    (fencedState subject.proof.status).map fun state => (subject.recovery, state,
      some ⟨subject.proof.status, subject.proof.receiptID, subject.recovery.subjectDigest⟩)
  | .scannerApply, .recoveryScannerApply subject =>
    if bounded subject.scannerAuthorityDigest 128 then
      (appliedState subject.fact.status).map fun state => (subject.recovery, state, some subject.fact)
    else none
  | _, _ => none

def validateRecoveryOutcome (request : RequestEnvelope) (outcome : OutcomeEnvelope)
    (value : RecoveryRecord) (requestDigest : String) : Except Error Unit := do
  let operation := outcome.semanticOperation
  require (request.predecessorDigest = "" ∧
    digest (.admissionSubject request.subject) = request.subjectDigest) (invalidOutcome operation)
  match wantedRecovery request operation with
  | none => .error (invalidOutcome operation)
  | some (identity, wantState, wantFact) =>
    require (identity.validate = .ok () ∧ identity.controlRunID = outcome.binding.controlRunID)
      (invalidOutcome operation)
    require (identity.installationID ≠ "" →
      identity.installationID = outcome.binding.installationID) (invalidOutcome operation)
    let identity := { identity with installationID := outcome.binding.installationID }
    require (value.identity = identity ∧ value.state = wantState ∧ value.fact = wantFact ∧
      value.receiptID = opaqueReceiptID operation outcome.binding requestDigest)
      (invalidOutcome operation)
    require (∀ fact ∈ value.fact, validateProviderFact fact identity.subjectDigest = .ok ())
      (invalidOutcome operation)

def isRunAdmission : Subject → Bool
  | .runAdmission _ => true
  | _ => false

def validatePolicyBinding (request : RequestEnvelope) (operation : SemanticOperation) : Except Error Unit :=
  if isRunAdmission request.subject then
    require (request.policyVersion ≠ 0 ∧ validDigest request.policyDigest) (invalidOutcome operation)
  else
    require (request.policyVersion = 0 ∧ request.policyDigest = "") (invalidOutcome operation)

def SemanticBinding.identity (binding : SemanticBinding) : TransitionIdentity where
  actionID := binding.actionID
  idempotencyKey := binding.idempotencyKey
  outcomeEventID := binding.outcomeEventID
  outcomeKind := binding.outcomeKind
  graphRevision := binding.graphRevision
  generation := binding.generation
  taskID := binding.taskID
  attemptID := binding.attemptID

def validateOutcomeSemantics (request : RequestEnvelope) (outcome : OutcomeEnvelope) : Except Error Unit := do
  let operation := outcome.semanticOperation
  validateOutcomeShape outcome
  let binding := outcome.binding
  require (binding.identity.validate = .ok () ∧ binding.outcomeKind = .actionResult ∧
    validDigest binding.subjectDigest ∧
    (request.predecessorDigest ≠ "" → validDigest request.predecessorDigest))
    (invalidOutcome operation)
  validatePolicyBinding request operation
  let requestDigest := digest (.admissionRequest request)
  match outcome.effect with
  | .admission value => validateAdmissionOutcome request outcome value requestDigest
  | .admissionTombstone value => validateAdmissionTombstoneOutcome request outcome value
  | .lease value => validateLeaseOutcome request outcome value requestDigest
  | .leaseTombstone value => validateLeaseTombstoneOutcome request outcome value
  | .handoff value => validateHandoffOutcome request outcome value requestDigest
  | .recovery value => validateRecoveryOutcome request outcome value requestDigest

/-- How the action, the reservation and the outcome event of a persisted transition hang together
with its two envelopes. -/
def Bound (installationID : String) (action : Action) (reservation event : Event)
    (request : RequestEnvelope) (outcome : OutcomeEnvelope) : Prop :=
  request.component = component ∧ outcome.component = component ∧
  request.schemaVersion = schemaVersion ∧ outcome.schemaVersion = schemaVersion ∧
  request.semanticOperation = request.binding.semanticOperation ∧
  outcome.semanticOperation = outcome.binding.semanticOperation ∧
  request.binding = outcome.binding ∧ request.subject = outcome.subject ∧
  request.subjectDigest = outcome.subjectDigest ∧
  request.subjectDigest = request.binding.subjectDigest ∧
  request.predecessorDigest = outcome.predecessorDigest ∧
  request.policyDigest = outcome.policyDigest ∧ request.policyVersion = outcome.policyVersion ∧
  validDigest request.subjectDigest ∧ request.binding.installationID = installationID ∧
  request.binding.controlRunID = action.controlRunID ∧
  request.binding.controlRunID = event.controlRunID ∧
  action.id = internalActionID request.binding ∧
  action.idempotencyKey = internalIdempotencyKey request.binding ∧
  action.kind = operationKind request.semanticOperation ∧
  action.graphRevision = request.binding.graphRevision ∧
  action.taskID = request.binding.taskID ∧ action.attemptID = request.binding.attemptID ∧
  action.canonicalRequestDigest = digest (.admissionRequest request) ∧
  reservation.actionID = action.id ∧ reservation.controlRunID = action.controlRunID ∧
  reservation.kind = .actionReserved ∧ reservation.runSequence = action.expectedProjection + 1 ∧
  event.runSequence = reservation.runSequence + 1 ∧
  event.journalPosition = reservation.journalPosition + 1 ∧
  event.id = internalOutcomeID request.binding ∧ event.actionID = action.id ∧
  event.kind = request.binding.outcomeKind ∧
  event.payloadDigest = digest (.admissionOutcome outcome)

instance (installationID : String) (action : Action) (reservation event : Event)
    (request : RequestEnvelope) (outcome : OutcomeEnvelope) :
    Decidable (Bound installationID action reservation event request outcome) := by
  unfold Bound
  infer_instance

def validatePersistedTransition (installationID : String) (action : Action)
    (reservation event : Event) (request : RequestEnvelope) (outcome : OutcomeEnvelope) : Except Error Unit := do
  require (Bound installationID action reservation event request outcome)
    (invalidOutcome request.semanticOperation)
  require (reservation.payloadDigest = digest (.action action))
    (invalidOutcome request.semanticOperation)
  validateOutcomeSemantics request outcome

end Paje.Admission
