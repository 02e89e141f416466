import Paje.Journal.Types

/-!
Requests, records and envelopes of the admission component. Outcomes and subjects are sum types; the
source's tag and pointer fields are read off the constructor.
-/

namespace Paje.Admission

open Text Journal

def schemaVersion : Nat := 1

def component : String := "admission"

inductive SemanticOperation where
  | admissionReserve | queueEnqueue | queueAdmit | backpressureDefer | admissionRelease
  | queueRelease | leaseAcquire | leaseRenew | leaseRelease | leaseExpire | startObservation
  | observeEffect | cancelOrFence | scannerApply | handoffIssue | handoffGrant
  | handoffAcknowledge
  deriving DecidableEq

def SemanticOperation.name : SemanticOperation → String
  | .admissionReserve => "admission_reserve"
  | .queueEnqueue => "queue_enqueue"
  | .queueAdmit => "queue_admit"
  | .backpressureDefer => "backpressure_defer"
  | .admissionRelease => "admission_release"
  | .queueRelease => "queue_release"
  | .leaseAcquire => "lease_acquire"
  | .leaseRenew => "lease_renew"
  | .leaseRelease => "lease_release"
  | .leaseExpire => "lease_expire"
  | .startObservation => "start_observation"
  | .observeEffect => "observe_effect"
  | .cancelOrFence => "cancel_or_fence"
  | .scannerApply => "scanner_apply"
  | .handoffIssue => "evidence_handoff_issue"
  | .handoffGrant => "evidence_handoff_grant"
  | .handoffAcknowledge => "evidence_handoff_acknowledge"

def operationKind : SemanticOperation → Kind
  | .admissionReserve | .queueEnqueue | .queueAdmit | .backpressureDefer | .leaseAcquire
  | .leaseRenew => .allocateResource
  | .admissionRelease | .queueRelease | .leaseRelease | .leaseExpire => .disposeResource
  | .startObservation | .observeEffect | .cancelOrFence | .scannerApply => .observe
  | .handoffIssue | .handoffGrant | .handoffAcknowledge => .send

inductive ErrorCode where
  | invalidRequest | invalidRecord | conflict | notFound | quota | leaseBusy | terminal
  | notExpired | ambiguous | fenced | unauthorized | store
  deriving DecidableEq

inductive Cause where
  | invalidRecord | invalidPolicy | conflict | notFound | quota | leaseBusy | terminal
  | notExpired | ambiguous | fenced | unauthorized
  deriving DecidableEq

/-- `Error`, with `errAdmissionDecisionChanged` beside it. -/
inductive Error where
  | typed (code : ErrorCode) (operation : Option SemanticOperation) (cause : Cause)
  | decisionChanged
  deriving DecidableEq

structure Policy where
  (version installationLimit principalLimit runLimit projectLimit primitiveLimit : UInt64)
  deriving DecidableEq

def Policy.validate (p : Policy) : Except Error Unit :=
  require (p.version ≠ 0 ∧ p.installationLimit ≠ 0 ∧ p.principalLimit ≠ 0 ∧ p.runLimit ≠ 0 ∧
    p.projectLimit ≠ 0 ∧ p.primitiveLimit ≠ 0) (.typed .invalidRequest none .invalidPolicy)

structure TransitionIdentity where
  (actionID idempotencyKey outcomeEventID : String)
  outcomeKind : EventKind := .actionResult
  (graphRevision generation : Nat)
  taskID : String := ""
  attemptID : String := ""
  deriving DecidableEq

def invalidRequest : Error := .typed .invalidRequest none .invalidRecord

def TransitionIdentity.validate (i : TransitionIdentity) : Except Error Unit := do
  require (bounded i.actionID 128 ∧ bounded i.idempotencyKey 256 ∧ bounded i.outcomeEventID 128 ∧
    i.graphRevision ≠ 0 ∧ i.generation ≠ 0 ∧ i.taskID.utf8ByteSize ≤ 128 ∧
    i.attemptID.utf8ByteSize ≤ 128 ∧ (i.attemptID ≠ "" → i.taskID ≠ "")) invalidRequest
  require (i.outcomeKind = .actionResult ∨ i.outcomeKind = .actionNotPerformed ∨
    i.outcomeKind = .actionAmbiguous) invalidRequest

inductive AdmissionState where
  | reserved | queued | admitted | deferred | released
  deriving DecidableEq

inductive QuotaKind where
  | none | installation | principal | run | project | primitive
  deriving DecidableEq

structure AdmissionSubject where
  (id principalID projectID primitive workID : String)
  deriving DecidableEq

def AdmissionSubject.validate (s : AdmissionSubject) : Except Error Unit :=
  require (bounded s.id 128 ∧ bounded s.principalID 128 ∧ bounded s.projectID 256 ∧
    bounded s.primitive 64 ∧ bounded s.workID 128) invalidRequest

structure AdmissionRequest where
  controlRunID : String
  identity : TransitionIdentity
  subject : AdmissionSubject
  deriving DecidableEq

structure RunAdmission where
  controlRunID : String
  subject : AdmissionSubject
  state : AdmissionState
  limitingQuota : QuotaKind := .none
  sequence : Nat := 0
  (graphRevision generation : Nat)
  policyVersion : UInt64
  (policyDigest originalRequestDigest receiptID : String)
  deriving DecidableEq

structure AdmissionTombstone where
  controlRunID : String
  subject : AdmissionSubject
  (graphRevision generation : Nat)
  policyVersion : UInt64
  (policyDigest originalRequestDigest terminalReceiptID : String)
  releasedAt : Time
  deriving DecidableEq

structure ResourceKey where
  «namespace» : String
  projectID : String := ""
  name : String
  deriving DecidableEq

inductive LeaseMode where
  | shared | exclusive
  deriving DecidableEq

inductive LeaseState where
  | active | released | expired
  deriving DecidableEq

structure LeaseSubject where
  id : String
  resource : ResourceKey
  mode : LeaseMode
  holderID : String
  deriving DecidableEq

def LeaseSubject.validate (s : LeaseSubject) : Except Error Unit := do
  require (bounded s.id 128 ∧ bounded s.holderID 128) invalidRequest
  require (bounded s.resource.namespace 64 ∧ s.resource.projectID.utf8ByteSize ≤ 256 ∧
    bounded s.resource.name 256) invalidRequest

structure LeaseRequest where
  controlRunID : String
  identity : TransitionIdentity
  subject : LeaseSubject
  expiresAt : Time
  deriving DecidableEq

structure Lease where
  controlRunID : String
  subject : LeaseSubject
  state : LeaseState
  (issuedAt expiresAt : Time)
  (generation graphRevision : Nat)
  (originalRequestDigest receiptID : String)
  deriving DecidableEq

structure LeaseTombstone where
  controlRunID : String
  subject : LeaseSubject
  state : LeaseState
  (issuedAt expiresAt : Time)
  (generation graphRevision : Nat)
  (originalRequestDigest terminalReceiptID : String)
  terminalAt : Time
  deriving DecidableEq

structure LeaseTransitionSubject where
  lease : LeaseSubject
  expiresAt : Time
  deriving DecidableEq

structure EvidenceEndpoint where
  (projectID taskID attemptID actionID : String)
  generation : Nat
  deriving DecidableEq

def EvidenceEndpoint.validate (e : EvidenceEndpoint) : Except Error Unit :=
  require (bounded e.projectID 256 ∧ bounded e.taskID 128 ∧ bounded e.attemptID 128 ∧
    bounded e.actionID 128 ∧ e.generation ≠ 0) invalidRequest

structure EvidenceHandoffSubject where
  graphRevision : Nat
  edgeID : String
  (producer consumer : EvidenceEndpoint)
  evidenceDigest : String
  deriving DecidableEq

def EvidenceHandoffSubject.validate (s : EvidenceHandoffSubject) : Except Error Unit := do
  require (s.graphRevision ≠ 0 ∧ bounded s.edgeID 128 ∧ validDigest s.evidenceDigest)
    invalidRequest
  s.producer.validate
  s.consumer.validate

inductive HandoffState where
  | issued | granted | acknowledged
  deriving DecidableEq

structure HandoffRequest where
  controlRunID : String
  identity : TransitionIdentity
  subject : EvidenceHandoffSubject
  predecessorReceiptID : String := ""
  deriving DecidableEq

structure EvidenceHandoff where
  (id controlRunID : String)
  subject : EvidenceHandoffSubject
  state : HandoffState
  receiptID : String
  predecessorReceiptID : String := ""
  sequence : Nat := 0
  deriving DecidableEq

structure RecoveryIdentity where
  installationID : String := ""
  (controlRunID actionID : String)
  generation : Nat
  subjectDigest : String
  deriving DecidableEq

def RecoveryIdentity.validate (i : RecoveryIdentity) : Except Error Unit :=
  require (i.installationID.utf8ByteSize ≤ 128 ∧ bounded i.controlRunID 128 ∧
    bounded i.actionID 128 ∧ i.generation ≠ 0 ∧ validDigest i.subjectDigest) invalidRequest

inductive RecoveryState where
  | observationStarted | effectObserved | notPerformed | canceled | fenced | ambiguous | applied
  deriving DecidableEq

inductive ProviderStatus where
  | effectObserved | notPerformed | canceled | fenced | ambiguous
  deriving DecidableEq

structure ProviderFact where
  status : ProviderStatus
  receiptID : String := ""
  subjectDigest : String
  deriving DecidableEq

def validateProviderFact (fact : ProviderFact) (wantDigest : String) : Except Error Unit := do
  let invalid : Error := .typed .invalidRequest (some .observeEffect) .invalidRecord
  require (fact.subjectDigest = wantDigest ∧ validDigest fact.subjectDigest ∧
    fact.receiptID.utf8ByteSize ≤ 128) invalid
  match fact.status with
  | .effectObserved | .notPerformed | .canceled | .fenced =>
    require (bounded fact.receiptID 128) invalid
  | .ambiguous => require (fact.receiptID = "") invalid

structure RecoveryRequest where
  identity : TransitionIdentity
  recovery : RecoveryIdentity
  deriving DecidableEq

structure FenceProof where
  status : ProviderStatus
  receiptID : String
  deriving DecidableEq

structure FenceRequest where
  identity : TransitionIdentity
  recovery : RecoveryIdentity
  proof : FenceProof
  deriving DecidableEq

structure ScannerApplyRequest where
  identity : TransitionIdentity
  recovery : RecoveryIdentity
  scannerAuthority : String
  fact : ProviderFact
  deriving DecidableEq

/-- `RecoveryRecord`; a started observation has no fact yet. -/
structure RecoveryRecord where
  identity : RecoveryIdentity
  state : RecoveryState
  receiptID : String
  fact : Option ProviderFact := none
  deriving DecidableEq

structure FenceTransitionSubject where
  recovery : RecoveryIdentity
  proof : FenceProof
  deriving DecidableEq

structure ScannerApplyTransitionSubject where
  recovery : RecoveryIdentity
  scannerAuthorityDigest : String
  fact : ProviderFact
  deriving DecidableEq

/-- The subject of a transition; the constructor is the envelope's `SubjectKind`. -/
inductive Subject where
  | runAdmission (subject : AdmissionSubject)
  | leaseRequest (subject : LeaseTransitionSubject)
  | evidenceHandoff (subject : EvidenceHandoffSubject)
  | recoveryIdentity (subject : RecoveryIdentity)
  | recoveryFence (subject : FenceTransitionSubject)
  | recoveryScannerApply (subject : ScannerApplyTransitionSubject)
  deriving DecidableEq

structure SemanticBinding where
  (actionID attemptID controlRunID : String)
  (generation graphRevision : Nat)
  (idempotencyKey installationID outcomeEventID : String)
  outcomeKind : EventKind
  semanticOperation : SemanticOperation
  (subjectDigest taskID : String)
  deriving DecidableEq

structure RequestEnvelope where
  binding : SemanticBinding
  (component predecessorDigest policyDigest : String)
  policyVersion : UInt64
  schemaVersion : Nat
  semanticOperation : SemanticOperation
  subject : Subject
  subjectDigest : String
  deriving DecidableEq

inductive Effect where
  | admission (value : RunAdmission)
  | admissionTombstone (value : AdmissionTombstone)
  | lease (value : Lease)
  | leaseTombstone (value : LeaseTombstone)
  | handoff (value : EvidenceHandoff)
  | recovery (value : RecoveryRecord)
  deriving DecidableEq

structure OutcomeEnvelope where
  effect : Effect
  binding : SemanticBinding
  (component predecessorDigest policyDigest : String)
  policyVersion : UInt64
  schemaVersion : Nat
  semanticOperation : SemanticOperation
  subject : Subject
  subjectDigest : String
  deriving DecidableEq

end Paje.Admission
