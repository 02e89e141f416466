import Paje.Admission.Projection

/-!
Replay of the journal into the admission projection, and the cached prefix it starts from.
-/

namespace Paje.Admission

open Text Journal

variable [sha : Sha]

def validAdmissionTransition : AdmissionState → AdmissionState → Bool
  | .reserved, .queued | .reserved, .admitted | .reserved, .deferred => true
  | .queued, .admitted | .queued, .deferred => true
  | .deferred, .admitted | .deferred, .deferred => true
  | _, _ => false

def validHandoffTransition : HandoffState → HandoffState → Bool
  | .issued, .granted | .granted, .acknowledged => true
  | _, _ => false

def validRecoveryTransition : RecoveryState → RecoveryState → Bool
  | .observationStarted, .canceled | .observationStarted, .fenced
  | .observationStarted, .notPerformed | .observationStarted, .effectObserved
  | .observationStarted, .ambiguous | .observationStarted, .applied => true
  | .effectObserved, .applied | .effectObserved, .fenced => true
  | _, _ => false

def releaseOperation : AdmissionState → SemanticOperation
  | .queued | .deferred => .queueRelease
  | _ => .admissionRelease

def sameChain (candidate identity : RecoveryIdentity) : Bool :=
  candidate.installationID = identity.installationID ∧
    candidate.controlRunID = identity.controlRunID ∧ candidate.actionID = identity.actionID

def laterRecovery (identity : RecoveryIdentity) (latest : Option RecoveryRecord)
    (candidate : RecoveryRecord) : Option RecoveryRecord :=
  if sameChain candidate.identity identity then
    match latest with
    | none => some candidate
    | some best =>
      if candidate.identity.generation > best.identity.generation then some candidate else some best
  else latest

def latestRecovery (p : Projection) (identity : RecoveryIdentity) : Option RecoveryRecord :=
  p.recoveries.values.foldl (laterRecovery identity) none

def mayStart (latest : Option RecoveryRecord) (identity : RecoveryIdentity) : Prop :=
  ∀ record ∈ latest, record.identity.subjectDigest = identity.subjectDigest ∧ record.identity.generation ≠ maxUint64 ∧
    identity.generation = record.identity.generation + 1 ∧
    (record.state = .canceled ∨ record.state = .notPerformed)

instance (latest : Option RecoveryRecord) (identity : RecoveryIdentity) : Decidable (mayStart latest identity) := by
  unfold mayStart
  infer_instance

namespace Projection

section

variable (p : Projection)

def applyAdmission (operation : SemanticOperation) (runID : String)
    (sequence : Nat) (value : RunAdmission) : Except Error Projection := do
  let key := scopedID runID value.subject.id
  match p.admissions.get? key with
  | some prior =>
    require (prior.subject = value.subject ∧ validAdmissionTransition prior.state value.state)
      (invalidOutcome operation)
  | none => require (value.state = .reserved) (invalidOutcome operation)
  return { p with admissions := p.admissions.put key { value with sequence } }

def applyAdmissionTombstone (operation : SemanticOperation) (runID : String)
    (sequence : Nat) (value : AdmissionTombstone) : Except Error Projection := do
  let key := scopedID runID value.subject.id
  match p.admissions.get? key with
  | none => .error (invalidOutcome operation)
  | some prior =>
    require (prior.state ≠ .released ∧ prior.subject = value.subject ∧
      prior.originalRequestDigest = value.originalRequestDigest ∧
      releaseOperation prior.state = operation) (invalidOutcome operation)
    let released := { prior with
      state := .released
      receiptID := value.terminalReceiptID
      sequence
      graphRevision := value.graphRevision
      generation := value.generation
      policyVersion := value.policyVersion
      policyDigest := value.policyDigest }
    return { p with
      admissions := p.admissions.put key released
      admissionTombs := p.admissionTombs.put key value }

def applyLease (operation : SemanticOperation) (runID : String) (value : Lease) :
    Except Error Projection := do
  let key := scopedID runID value.subject.id
  match p.leases.get? key with
  | some prior =>
    require (prior.subject = value.subject ∧ prior.state = .active ∧ value.state = .active ∧
      prior.generation < value.generation ∧
      value.originalRequestDigest = prior.originalRequestDigest ∧
      value.issuedAt = prior.issuedAt ∧ prior.expiresAt < value.expiresAt) (invalidOutcome operation)
  | none => require (value.state = .active) (invalidOutcome operation)
  return { p with leases := p.leases.put key value }

def applyLeaseTombstone (operation : SemanticOperation) (runID : String)
    (subject : Subject) (value : LeaseTombstone) : Except Error Projection := do
  let key := scopedID runID value.subject.id
  match p.leases.get? key, subject with
  | some prior, .leaseRequest requested =>
    require (prior.state = .active ∧ prior.subject = value.subject ∧
      prior.originalRequestDigest = value.originalRequestDigest ∧
      (value.state = .released ∨ value.state = .expired) ∧ requested.lease = prior.subject ∧
      requested.expiresAt = prior.expiresAt ∧ value.issuedAt = prior.issuedAt ∧
      value.expiresAt = prior.expiresAt ∧ prior.issuedAt ≤ value.terminalAt ∧
      (value.state = .expired → prior.expiresAt ≤ value.terminalAt)) (invalidOutcome operation)
    let ended := { prior with
      state := value.state
      receiptID := value.terminalReceiptID
      generation := value.generation
      graphRevision := value.graphRevision }
    return { p with
      leases := p.leases.put key ended
      leaseTombs := p.leaseTombs.put key value }
  | _, _ => .error (invalidOutcome operation)

def applyHandoff (operation : SemanticOperation) (runID : String) (sequence : Nat)
    (value : EvidenceHandoff) : Except Error Projection := do
  let key := scopedID runID value.id
  match p.handoffs.get? key with
  | some prior =>
    require (prior.subject = value.subject ∧ validHandoffTransition prior.state value.state ∧
      value.predecessorReceiptID = prior.receiptID) (invalidOutcome operation)
  | none =>
    require (value.state = .issued ∧ value.predecessorReceiptID = "") (invalidOutcome operation)
  require (∀ owner ∈ p.handoffReceipts.get? value.receiptID, owner = key) (invalidOutcome operation)
  return { p with
    handoffs := p.handoffs.put key { value with sequence }
    handoffReceipts := p.handoffReceipts.put value.receiptID key }

def applyRecovery (operation : SemanticOperation) (value : RecoveryRecord) : Except Error Projection := do
  let key := recoveryIndex value.identity
  let latest := latestRecovery p value.identity
  match p.recoveries.get? key with
  | some prior =>
    require ((∀ record ∈ latest, record.identity.generation ≤ value.identity.generation) ∧
      validRecoveryTransition prior.state value.state) (invalidOutcome operation)
  | none =>
    require (value.state = .observationStarted ∧ mayStart latest value.identity)
      (invalidOutcome operation)
  return { p with recoveries := p.recoveries.put key value }

def apply (record : TransitionRecord) : Except Error Projection :=
  let operation := record.outcome.semanticOperation
  let runID := record.binding.controlRunID
  let sequence := record.receipt.outcome.journalPosition
  match record.outcome.effect with
  | .admission value => p.applyAdmission operation runID sequence value
  | .admissionTombstone value => p.applyAdmissionTombstone operation runID sequence value
  | .lease value => p.applyLease operation runID value
  | .leaseTombstone value => p.applyLeaseTombstone operation runID record.request.subject value
  | .handoff value => p.applyHandoff operation runID sequence value
  | .recovery value => p.applyRecovery operation value

end

end Projection

def storeError (operation : Option SemanticOperation) : Journal.Error → Error
  | .conflict => .typed .conflict operation .conflict
  | .notFound => .typed .notFound operation .notFound
  | .invalidRecord | .cursor => .typed .invalidRecord operation .invalidRecord

/-- `admissionComponent`: the payload's `component` field, if it has one, names this component. -/
def admissionComponent : Document → Except Error Bool
  | .admissionRequest value => .ok (value.component = component)
  | .admissionOutcome value => .ok (value.component = component)
  | .recoveryEnvelope value => .ok (value.component = component)
  | .foreign name _ => .ok (name = some component)
  | .malformed _ => .error invalidRecord
  | _ => .ok false

def decodeRequest : Document → Except Error RequestEnvelope
  | .admissionRequest request => .ok request
  | _ => .error invalidRecord

def decodeOutcome : Document → Except Error OutcomeEnvelope
  | .admissionOutcome outcome => .ok outcome
  | _ => .error invalidRecord

def sameTransition (left right : TransitionRecord) : Bool :=
  left.binding = right.binding ∧ left.request = right.request ∧ left.outcome = right.outcome ∧
    left.receipt.action = right.receipt.action ∧
    left.receipt.reservation = right.receipt.reservation ∧
    left.receipt.outcome = right.receipt.outcome

structure Replay where
  projection : Projection
  reservations : Table Event := ∅
  wantPosition : Nat

namespace Replay

/-- Index the record under its semantic and idempotency keys and apply it. -/
def enter (p : Projection) (record : TransitionRecord) : Except Error Projection := do
  let binding := record.binding
  let semanticKey := semanticIndex binding.controlRunID binding.actionID binding.generation
  let idempotencyKey := idempotencyIndex binding.controlRunID binding.idempotencyKey
  require (∀ prior ∈ p.transitions.get? semanticKey, sameTransition prior record)
    (invalidOutcome record.request.semanticOperation)
  require (∀ prior ∈ p.idempotency.get? idempotencyKey, sameTransition prior record)
    (invalidOutcome record.request.semanticOperation)
  { p with
    transitions := p.transitions.put semanticKey record
    idempotency := p.idempotency.put idempotencyKey record }.apply record

def step (r : Replay) (event : Event) (evidence : Evidence) : Except Error Replay := do
  require (event.journalPosition = r.wantPosition ∧
    event.runSequence = r.projection.head event.controlRunID + 1) invalidRecord
  let p := r.projection.withHead event.controlRunID event.runSequence
  let r := { r with projection := p, wantPosition := r.wantPosition + 1 }
  -- the digest of the event, which the projection's own digest takes in
  require event.occurredAt.Encodable invalidRecord
  if event.kind = .actionReserved then
    require (r.reservations.get? event.actionID = none) invalidRecord
    return { r with reservations := r.reservations.put event.actionID event }
  else if ¬ event.kind.isOutcome then
    return r
  else
    let payload ← relabel (storeError none) evidence.payload
    let ours ← admissionComponent payload
    if ¬ ours then
      return r
    else
      match r.reservations.get? event.actionID with
      | none => .error invalidRecord
      | some reservation =>
        let action ← relabel (storeError none) evidence.action
        let requestPayload ← relabel (storeError none) evidence.request
        let request ← decodeRequest requestPayload
        let outcome ← decodeOutcome payload
        validatePersistedTransition p.installationID action reservation event request outcome
        let receipt : CommitReceipt := { action, reservation, outcome := event, created := true }
        let p ← enter p { binding := request.binding, request, outcome, receipt }
        return { r with projection := p, reservations := r.reservations.drop event.actionID }

def page (store : MemoryStore) (r : Replay) (events : List Event) (next : GlobalCursor) : Except Error Replay := do
  let p := if r.projection.installationID = "" then
    { r.projection with installationID := next.installationID } else r.projection
  require (next.installationID = p.installationID ∧ next.schemaVersion = Journal.schemaVersion)
    invalidRecord
  events.foldlM (store.replay step) { r with projection := p }

def finish (r : Replay) (cursor : GlobalCursor) : Except Error View := do
  require (r.projection.installationID ≠ "") invalidRecord
  require (∀ actionID ∈ r.reservations.keys, ¬ beginsWith "admission_action_" actionID) invalidRecord
  return { r.projection with global := cursor }

end Replay

def rebuildFrom (store : MemoryStore) (p : Projection) (cursor : GlobalCursor) : Except Error View := do
  let fetch := fun c => relabel (storeError none) (store.feed c 1000)
  let start : Replay := { projection := p, wantPosition := cursor.journalPosition + 1 }
  let (r, last) ← Paging.readAll fetch (Replay.page store) invalidRecord (store.events.length + 1)
    cursor start
  r.finish last

def rebuildAll (store : MemoryStore) : Except Error View :=
  rebuildFrom store newProjection GlobalCursor.zero

def cacheFallbackError : Error → Bool
  | .typed _ _ cause => cause = .invalidRecord ∨ cause = .notFound
  | .decisionChanged => false

/-- `loadProjectionCache`; the seals that detect a damaged cache are not modelled. -/
def loadProjectionCache (cache : Option View) : Option View :=
  cache.filter fun p => bounded p.installationID 128 ∧ p.global.installationID = p.installationID ∧
    p.global.schemaVersion = Journal.schemaVersion

def installProjectionCache (cache : Option View) (candidate : View) : Option View :=
  match cache with
  | none => some candidate
  | some cached =>
    if cached.global.installationID ≠ candidate.global.installationID ∨
        cached.global.schemaVersion ≠ candidate.global.schemaVersion then some candidate
    else if cached.global.journalPosition > candidate.global.journalPosition then some cached
    else if cached.global.journalPosition = candidate.global.journalPosition then
      if cached = candidate then some cached else none
    else some candidate

def rebuildUncached (store : MemoryStore) : Except Error View × Option View :=
  match rebuildAll store with
  | .ok p => (.ok p, installProjectionCache none p)
  | .error e => (.error e, none)

/-- `rebuild`: the view, and the service's cache afterwards. -/
def rebuild (store : MemoryStore) (cache : Option View) : Except Error View × Option View :=
  match loadProjectionCache cache with
  | none => rebuildUncached store
  | some cached =>
    match rebuildFrom store cached.toProjection cached.global with
    | .ok p => (.ok p, if p.global = cached.global then cache else installProjectionCache cache p)
    | .error e => if cacheFallbackError e then rebuildUncached store else (.error e, cache)

end Paje.Admission
