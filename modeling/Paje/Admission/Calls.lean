import Paje.Admission.System

/-!
Whole calls: the receipts that the services hand out, and a call served from its checks to its
receipt while no other call commits.
-/

namespace Paje.Admission

open Text Journal

inductive EligibilityCondition where
  | quotaAvailable
  deriving DecidableEq

structure BackpressureReceipt where
  limitingQuota : QuotaKind
  nextEligibility : EligibilityCondition
  policyVersion : UInt64
  policyDigest : String
  deriving DecidableEq

structure AdmissionReceipt where
  commit : CommitReceipt
  operation : SemanticOperation
  admission : Option RunAdmission
  backpressure : Option BackpressureReceipt
  tombstone : Option AdmissionTombstone
  created : Bool
  deriving DecidableEq

structure LeaseReceipt where
  commit : CommitReceipt
  operation : SemanticOperation
  lease : Option Lease
  tombstone : Option LeaseTombstone
  created : Bool
  deriving DecidableEq

structure HandoffReceipt where
  commit : CommitReceipt
  operation : SemanticOperation
  handoff : Option EvidenceHandoff
  created : Bool
  deriving DecidableEq

structure RecoveryReceipt where
  commit : CommitReceipt
  operation : SemanticOperation
  recovery : Option RecoveryRecord
  (retryAllowed created : Bool)
  deriving DecidableEq

inductive Receipt where
  | admission (receipt : AdmissionReceipt)
  | lease (receipt : LeaseReceipt)
  | handoff (receipt : HandoffReceipt)
  | recovery (receipt : RecoveryReceipt)
  deriving DecidableEq

def admissionReceipt (record : TransitionRecord) (created : Bool) : AdmissionReceipt :=
  let receipt : AdmissionReceipt := {
    commit := { record.receipt with created }
    operation := record.outcome.semanticOperation
    admission := none
    backpressure := none
    tombstone := none
    created }
  match record.outcome.effect with
  | .admission value =>
    let admission := { value with sequence := record.receipt.outcome.journalPosition }
    { receipt with
      admission := some admission
      backpressure := if admission.state = .deferred then
        some ⟨admission.limitingQuota, .quotaAvailable, admission.policyVersion, admission.policyDigest⟩
        else none }
  | .admissionTombstone value =>
    { receipt with
      tombstone := some value
      admission := some {
        controlRunID := value.controlRunID
        subject := value.subject
        state := .released
        graphRevision := value.graphRevision
        generation := value.generation
        policyVersion := value.policyVersion
        policyDigest := value.policyDigest
        originalRequestDigest := value.originalRequestDigest
        receiptID := value.terminalReceiptID
        sequence := record.receipt.outcome.journalPosition } }
  | _ => receipt

def leaseReceipt (record : TransitionRecord) (created : Bool) : LeaseReceipt :=
  let receipt : LeaseReceipt := {
    commit := { record.receipt with created }
    operation := record.outcome.semanticOperation
    lease := none
    tombstone := none
    created }
  match record.outcome.effect with
  | .lease value => { receipt with lease := some value }
  | .leaseTombstone value =>
    { receipt with
      tombstone := some value
      lease := some {
        controlRunID := value.controlRunID
        subject := value.subject
        state := value.state
        issuedAt := value.issuedAt
        expiresAt := value.expiresAt
        generation := value.generation
        graphRevision := value.graphRevision
        originalRequestDigest := value.originalRequestDigest
        receiptID := value.terminalReceiptID } }
  | _ => receipt

def handoffReceipt (record : TransitionRecord) (created : Bool) : HandoffReceipt where
  commit := { record.receipt with created }
  operation := record.outcome.semanticOperation
  handoff := match record.outcome.effect with
    | .handoff value => some { value with sequence := record.receipt.outcome.journalPosition }
    | _ => none
  created := created

def recoveryReceipt (record : TransitionRecord) (created : Bool) : RecoveryReceipt where
  commit := { record.receipt with created }
  operation := record.outcome.semanticOperation
  recovery := match record.outcome.effect with
    | .recovery value => some value
    | _ => none
  retryAllowed := match record.outcome.effect with
    | .recovery value => value.state = .notPerformed ∨ value.state = .canceled
    | _ => false
  created := created

def Call.receipt (call : Call) (record : TransitionRecord) (created : Bool) : Receipt :=
  match call with
  | .reserve _ | .enqueue _ | .admitRun _ | .release _ => .admission (admissionReceipt record created)
  | .acquireLease _ | .renewLease _ | .releaseLease _ | .expireLease _ =>
    .lease (leaseReceipt record created)
  | .issueHandoff _ | .grantHandoff _ | .acknowledgeHandoff _ =>
    .handoff (handoffReceipt record created)
  | .startObservation _ | .cancelOrFence _ | .scannerApply _ =>
    .recovery (recoveryReceipt record created)

/-! ### A call while no other commits -/

section Serve

variable [sha : Sha]

def maxCASAttempts : Nat := 256

/-- `commitTransition` with `n` iterations left; `clock n` holds the two readings of an iteration. -/
def commitTransition (s : Service) (plan : Plan) (clock : Nat → Time × Time) : Nat → MemoryStore → Option View →
      Except Error (TransitionRecord × Bool) × MemoryStore × Option View
  | 0, store, cache =>
    (.error (refused plan.transition.operation .conflict .conflict), store, cache)
  | n + 1, store, cache =>
    match rebuild store cache with
    | (.error e, cache) => (.error e, store, cache)
    | (.ok view, cache) =>
      match attempt s plan view store cache (clock n).1 (clock n).2 with
      | (.returned record created, store, cache) => (.ok (record, created), store, cache)
      | (.failed e, store, cache) => (.error e, store, cache)
      | (.again, store, cache) => commitTransition s plan clock n store cache

/-- The loop of `Admit` and `Release`, which choose their operation again when a commit finds the
decision changed. -/
def Call.decide (s : Service) (call : Call) (operation : SemanticOperation) (clock : Nat → Nat → Time × Time) :
    Nat → MemoryStore → Option View → Except Error (TransitionRecord × Bool) × MemoryStore × Option View
  | 0, store, cache => (.error (refused operation .conflict .conflict), store, cache)
  | n + 1, store, cache =>
    match rebuild store cache with
    | (.error e, cache) => (.error e, store, cache)
    | (.ok view, cache) =>
      match call.plan s view.toProjection with
      | .error e => (.error e, store, cache)
      | .ok plan =>
        match commitTransition s plan (clock n) maxCASAttempts store cache with
        | (.error .decisionChanged, store, cache) => call.decide s operation clock n store cache
        | result => result

def Call.transact (s : Service) (call : Call) (clock : Nat → Nat → Time × Time) (store : MemoryStore)
    (cache : Option View) : Except Error (TransitionRecord × Bool) × MemoryStore × Option View :=
  match call with
  | .admitRun _ => call.decide s .queueAdmit clock maxCASAttempts store cache
  | .release _ => call.decide s .admissionRelease clock maxCASAttempts store cache
  | _ =>
    match call.plan s newProjection with
    | .error e => (.error e, store, cache)
    | .ok plan => commitTransition s plan (clock 0) maxCASAttempts store cache

def Service.serve (s : Service) (call : Call) (clock : Nat → Nat → Time × Time) (store : MemoryStore)
    (cache : Option View) : Except Error Receipt × MemoryStore × Option View :=
  match call.validate s with
  | .error e => (.error e, store, cache)
  | .ok () =>
    let (result, store, cache) := call.transact s clock store cache
    (result.map fun answer => call.receipt answer.1 answer.2, store, cache)

end Serve

end Paje.Admission
