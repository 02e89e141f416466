import Paje.Admission.Calls
import Paje.Journal.Reading
import Paje.Scheduler.Fairness

/-!
The scheduler's view of the journal: admission records replayed into the ready queue, with every
admission and every deferral checked against the fair choice at its time.
-/

namespace Paje.Scheduler

open Text Journal

/-- `admissionActionPrefix`. -/
def admissionActionStart : String := "admission_action_"

/-- `readyEntry` without the receipt that it hands on. -/
structure ReadyEntry where
  current : Admission.RunAdmission
  enqueueSequence : Nat
  enqueuedAt : Time
  attempts : UInt64 := 0

def weightOf (primitive : String) : UInt64 :=
  if primitive = "persistent_session" then 1
  else if primitive = "ephemeral_subagent" then 2
  else if primitive = "harness_native_parallel" then 4
  else if primitive = "local_sequential" then 8
  else 1

def schedulerWeight (policyVersion : UInt64) (primitive : String) : Except Error UInt64 := do
  require (policyVersion = 1 ∧ ¬ blank primitive) ⟨.invalidPolicy, "weight", .invalidPolicy⟩
  return weightOf primitive

def ReadyEntry.ready (entry : ReadyEntry) (virtualStart : UInt64) : Except Error ReadyItem := do
  let weight ← schedulerWeight entry.current.policyVersion entry.current.subject.primitive
  return {
    id := entry.current.subject.id
    controlRunID := entry.current.controlRunID
    weight
    virtualStart
    enqueueSequence := entry.enqueueSequence
    enqueuedAt := entry.enqueuedAt
    admission := ⟨entry.current.controlRunID, entry.current.subject⟩
    attempt := entry.attempts }

structure SchedulerSnapshot where
  installationID : String := ""
  global : GlobalCursor := GlobalCursor.zero
  runHeads : Table Nat := ∅
  ready : Table ReadyEntry := ∅
  virtualFinish : Table UInt64 := ∅
  fairness : FairnessState := {}
  receipts : Table Admission.AdmissionReceipt := ∅
  leaseReceipts : Table Admission.LeaseReceipt := ∅
  recoveryReceipts : Table Admission.RecoveryReceipt := ∅
  leases : Table Admission.Lease := ∅
  recoveries : Table Admission.RecoveryRecord := ∅

def finishOf (virtualFinish : Table UInt64) (runID : String) : UInt64 :=
  (virtualFinish.get? runID).getD 0

abbrev Listed := Sigma fun _ : String => ReadyEntry

def eligible (excluded : Table Bool) (entries : List Listed) : List Listed :=
  entries.filter fun entry => !excluded.holds entry.1

def readyItems (virtualFinish : Table UInt64) (excluded : Table Bool) (entries : List Listed) :
    Except Error (List ReadyItem) :=
  (eligible excluded entries).mapM fun entry =>
    entry.2.ready (finishOf virtualFinish entry.2.current.controlRunID)

/-- `historicalSelection`, over the ready entries in the order they are enumerated. -/
def selectFrom (policy : Policy) (snapshot : SchedulerSnapshot) (now : Time) (excluded : Table Bool)
    (entries : List Listed) : Except Error (RankedItem × FairnessState) := do
  let items ← readyItems snapshot.virtualFinish excluded entries
  selectReady items snapshot.fairness now policy

def historicalSelection (policy : Policy) (snapshot : SchedulerSnapshot) (now : Time)
    (excluded : Table Bool) : Except Error (RankedItem × FairnessState) :=
  selectFrom policy snapshot now excluded snapshot.ready.entries

def RankedItem.itemKey (selected : RankedItem) : String :=
  admissionKey selected.item.controlRunID selected.item.id

def chooses (policy : Policy) (snapshot : SchedulerSnapshot) (now : Time) (excluded : Table Bool)
    (wantKey : String) : Bool :=
  succeeds (historicalSelection policy snapshot now excluded) fun choice => choice.1.itemKey = wantKey

/-- `verifyHistoricalChoice`, with the excluded keys it leaves. -/
def verifyHistoricalChoice (policy : Policy) (snapshot : SchedulerSnapshot) (wantKey : String)
    (now : Time) (excluded : Table Bool) : Except Error (Table Bool) :=
  if chooses policy snapshot now excluded wantKey then .ok excluded
  else if excluded ≠ ∅ ∧ chooses policy snapshot now ∅ wantKey then .ok ∅
  else .error (authorityError "historical_fairness")

/-! ### Membership of an admission record -/

def validTransitionIdentity (identity : Admission.TransitionIdentity) : Prop :=
  bounded identity.actionID 128 ∧ bounded identity.idempotencyKey 256 ∧
  bounded identity.outcomeEventID 128 ∧ identity.outcomeKind = .actionResult ∧
  identity.graphRevision > 0 ∧ identity.generation > 0 ∧ identity.taskID.utf8ByteSize ≤ 128 ∧
  identity.attemptID.utf8ByteSize ≤ 128 ∧ (identity.attemptID = "" ∨ identity.taskID ≠ "")

instance (identity : Admission.TransitionIdentity) : Decidable (validTransitionIdentity identity) := by
  unfold validTransitionIdentity
  infer_instance

def validAdmissionOutcomeShape (outcome : Admission.OutcomeEnvelope) : Bool :=
  match outcome.semanticOperation, outcome.effect with
  | .admissionReserve, .admission _ | .queueEnqueue, .admission _ | .queueAdmit, .admission _
  | .backpressureDefer, .admission _ => true
  | .admissionRelease, .admissionTombstone _ | .queueRelease, .admissionTombstone _ => true
  | .leaseAcquire, .lease _ | .leaseRenew, .lease _ => true
  | .leaseRelease, .leaseTombstone _ | .leaseExpire, .leaseTombstone _ => true
  | .startObservation, .recovery _ | .cancelOrFence, .recovery _ | .scannerApply, .recovery _ => true
  | .handoffIssue, .handoff _ | .handoffGrant, .handoff _ | .handoffAcknowledge, .handoff _ => true
  | _, _ => false

variable [sha : Sha]

def ReceiptBound (outcome : Admission.OutcomeEnvelope) (requestDigest : String) : Prop :=
  match outcome.effect with
  | .admission value =>
    value.receiptID = Admission.opaqueReceiptID outcome.semanticOperation outcome.binding
      value.originalRequestDigest ∧
    (outcome.semanticOperation = .admissionReserve → value.originalRequestDigest = requestDigest)
  | _ => True

instance (outcome : Admission.OutcomeEnvelope) (requestDigest : String) :
    Decidable (ReceiptBound outcome requestDigest) := by
  unfold ReceiptBound
  split <;> infer_instance

/-- `validateAdmissionMembership`. -/
def AdmissionMembership (installationID : String) (action : Action) (reservation event : Event)
    (request : Admission.RequestEnvelope) (outcome : Admission.OutcomeEnvelope) : Prop :=
  request.component = Admission.component ∧ outcome.component = Admission.component ∧
  request.schemaVersion = Admission.schemaVersion ∧ outcome.schemaVersion = Admission.schemaVersion ∧
  request.binding = outcome.binding ∧ request.semanticOperation = outcome.semanticOperation ∧
  request.semanticOperation = request.binding.semanticOperation ∧
  request.subject = outcome.subject ∧ request.subjectDigest = outcome.subjectDigest ∧
  request.subjectDigest = request.binding.subjectDigest ∧
  request.policyVersion = outcome.policyVersion ∧ request.policyDigest = outcome.policyDigest ∧
  request.predecessorDigest = outcome.predecessorDigest ∧
  request.binding.installationID = installationID ∧
  request.binding.controlRunID = action.controlRunID ∧
  request.binding.graphRevision = action.graphRevision ∧ request.binding.taskID = action.taskID ∧
  request.binding.attemptID = action.attemptID ∧ request.binding.outcomeKind = event.kind ∧
  validTransitionIdentity request.binding.identity ∧ request.binding.outcomeKind = .actionResult ∧
  action.id = Admission.internalActionID request.binding ∧
  action.idempotencyKey = Admission.internalIdempotencyKey request.binding ∧
  action.authorityReceiptID = "" ∧ event.id = Admission.internalOutcomeID request.binding ∧
  event.actionID = action.id ∧ event.controlRunID = action.controlRunID ∧
  reservation.actionID = action.id ∧ reservation.controlRunID = action.controlRunID ∧
  reservation.kind = .actionReserved ∧ reservation.runSequence ≠ 0 ∧
  action.expectedProjection = reservation.runSequence - 1 ∧
  event.runSequence = reservation.runSequence + 1 ∧
  event.journalPosition = reservation.journalPosition + 1 ∧
  action.canonicalRequestDigest = digest (.admissionRequest request) ∧
  event.payloadDigest = digest (.admissionOutcome outcome) ∧
  action.kind = Admission.operationKind outcome.semanticOperation ∧
  validatePayload (.admissionSubject request.subject) request.subjectDigest = .ok () ∧
  (request.predecessorDigest = "" ∨ validDigest request.predecessorDigest) ∧
  validAdmissionOutcomeShape outcome ∧
  (if Admission.isRunAdmission request.subject then
    request.policyVersion ≠ 0 ∧ validDigest request.policyDigest
    else request.policyVersion = 0 ∧ request.policyDigest = "") ∧
  ReceiptBound outcome (digest (.admissionRequest request)) ∧
  reservation.payloadDigest = digest (.action action) ∧ validDigest request.subjectDigest

instance (installationID : String) (action : Action) (reservation event : Event)
    (request : Admission.RequestEnvelope) (outcome : Admission.OutcomeEnvelope) :
    Decidable (AdmissionMembership installationID action reservation event request outcome) := by
  unfold AdmissionMembership
  infer_instance

/-! ### Applying an admission record -/

def validAdmissionSubject (subject : Admission.AdmissionSubject) : Prop :=
  bounded subject.id 128 ∧ bounded subject.principalID 128 ∧ bounded subject.projectID 256 ∧
  bounded subject.primitive 64 ∧ bounded subject.workID 128

instance (subject : Admission.AdmissionSubject) : Decidable (validAdmissionSubject subject) := by
  unfold validAdmissionSubject
  infer_instance

def commitOf (action : Action) (reservation event : Event) : CommitReceipt :=
  { action, reservation, outcome := event, created := true }

/-- What every admission record is checked for before its operation is looked at. -/
def AdmissionFits (action : Action) (outcome : Admission.OutcomeEnvelope) (value : Admission.RunAdmission) : Prop :=
  outcome.subject = .runAdmission value.subject ∧ validAdmissionSubject value.subject ∧
  value.controlRunID = action.controlRunID ∧ value.sequence = 0 ∧
  value.graphRevision = outcome.binding.graphRevision ∧
  value.generation = outcome.binding.generation ∧ value.policyVersion = outcome.policyVersion ∧
  value.policyDigest = outcome.policyDigest ∧ validDigest value.policyDigest ∧
  validDigest value.originalRequestDigest ∧ bounded value.receiptID 128

instance (action : Action) (outcome : Admission.OutcomeEnvelope) (value : Admission.RunAdmission) :
    Decidable (AdmissionFits action outcome value) := by
  unfold AdmissionFits
  infer_instance

def recordKey (value : Admission.RunAdmission) : String :=
  admissionKey value.controlRunID value.subject.id

def placedAt (event : Event) (value : Admission.RunAdmission) : Admission.RunAdmission :=
  { value with sequence := event.journalPosition }

def queuedEntry (event : Event) (value : Admission.RunAdmission) : ReadyEntry where
  current := placedAt event value
  enqueueSequence := event.journalPosition
  enqueuedAt := event.occurredAt

def deferredEntry (event : Event) (entry : ReadyEntry) (value : Admission.RunAdmission) : ReadyEntry :=
  { entry with
    current := placedAt event value
    attempts := Admission.saturatingAdd entry.attempts 1 }

def admissionReceiptOf (commit : CommitReceipt) (operation : Admission.SemanticOperation)
    (value : Admission.RunAdmission) : Admission.AdmissionReceipt where
  commit
  operation
  admission := some value
  backpressure := if operation = .backpressureDefer then
    some ⟨value.limitingQuota, .quotaAvailable, value.policyVersion, value.policyDigest⟩ else none
  tombstone := none
  created := true

/-- `snapshot` with the receipt of the record that `event` carries. -/
def SchedulerSnapshot.file (snapshot : SchedulerSnapshot) (action : Action) (reservation event : Event)
    (operation : Admission.SemanticOperation) (value : Admission.RunAdmission) : SchedulerSnapshot :=
  let receipt := admissionReceiptOf (commitOf action reservation event) operation (placedAt event value)
  { snapshot with receipts := snapshot.receipts.put event.id receipt }

/-- The admission branch of `applyAdmissionOutcome`. -/
def applyAdmission (policy : Policy) (snapshot : SchedulerSnapshot) (excluded : Table Bool)
    (action : Action) (reservation event : Event) (outcome : Admission.OutcomeEnvelope)
    (value : Admission.RunAdmission) : Except Error (SchedulerSnapshot × Table Bool) := do
  require (AdmissionFits action outcome value) (authorityError "admission_outcome")
  let filed := snapshot.file action reservation event outcome.semanticOperation value
  match outcome.semanticOperation with
  | .admissionReserve =>
    require (value.state = .reserved ∧ value.limitingQuota = .none)
      (authorityError "admission_reserve")
    return (filed, excluded)
  | .queueEnqueue =>
    require (value.state = .queued ∧ value.limitingQuota = .none) (authorityError "queue_enqueue")
    require (snapshot.ready.get? (recordKey value) = none) (authorityError "queue_enqueue")
    return ({ filed with ready := snapshot.ready.put (recordKey value) (queuedEntry event value) }, excluded)
  | .backpressureDefer =>
    match snapshot.ready.get? (recordKey value) with
    | none => .error (authorityError "backpressure")
    | some entry =>
      require (entry.current.subject = value.subject ∧ value.state = .deferred ∧
        value.limitingQuota ≠ .none) (authorityError "backpressure")
      let excluded ←
        verifyHistoricalChoice policy snapshot (recordKey value) event.occurredAt excluded
      return ({ filed with
        ready := snapshot.ready.put (recordKey value) (deferredEntry event entry value) },
        excluded.put (recordKey value) true)
  | .queueAdmit =>
    match snapshot.ready.get? (recordKey value) with
    | none => .error (authorityError "queue_admit")
    | some entry =>
      require (entry.current.subject = value.subject ∧ value.state = .admitted ∧
        value.limitingQuota = .none) (authorityError "queue_admit")
      match historicalSelection policy snapshot event.occurredAt excluded with
      | .error _ => .error (authorityError "queue_admit")
      | .ok (selected, nextState) =>
        require (selected.itemKey = recordKey value) (authorityError "queue_admit")
        return ({ filed with
          virtualFinish := snapshot.virtualFinish.put value.controlRunID selected.virtualFinish
          fairness := nextState
          ready := snapshot.ready.drop (recordKey value) }, ∅)
  | _ => .error (authorityError "admission_outcome")

def recoveryKey (identity : Admission.RecoveryIdentity) : String :=
  identity.installationID ++ "\x00" ++ identity.controlRunID ++ "\x00" ++ identity.actionID ++
    "\x00" ++ toString identity.generation

def leaseReceiptOf (commit : CommitReceipt) (operation : Admission.SemanticOperation)
    (value : Admission.Lease) : Admission.LeaseReceipt where
  commit
  operation
  lease := some value
  tombstone := none
  created := true

def endedReceiptOf (commit : CommitReceipt) (operation : Admission.SemanticOperation)
    (value : Admission.LeaseTombstone) : Admission.LeaseReceipt where
  commit
  operation
  lease := some {
    controlRunID := value.controlRunID
    subject := value.subject
    state := value.state
    issuedAt := value.issuedAt
    expiresAt := value.expiresAt
    generation := value.generation
    graphRevision := value.graphRevision
    originalRequestDigest := value.originalRequestDigest
    receiptID := value.terminalReceiptID }
  tombstone := some value
  created := true

def recoveryReceiptOf (commit : CommitReceipt) (operation : Admission.SemanticOperation)
    (value : Admission.RecoveryRecord) : Admission.RecoveryReceipt where
  commit
  operation
  recovery := some value
  retryAllowed := value.state = .notPerformed ∨ value.state = .canceled
  created := true

/-- `applyAdmissionOutcome`, with the excluded keys it leaves. -/
def applyAdmissionOutcome (policy : Policy) (snapshot : SchedulerSnapshot) (excluded : Table Bool)
    (action : Action) (reservation event : Event) (outcome : Admission.OutcomeEnvelope) :
    Except Error (SchedulerSnapshot × Table Bool) :=
  let operation := outcome.semanticOperation
  let commit := commitOf action reservation event
  match outcome.effect with
  | .admission value => applyAdmission policy snapshot excluded action reservation event outcome value
  | .admissionTombstone value => do
    require ((operation = .admissionRelease ∨ operation = .queueRelease) ∧
      value.controlRunID = action.controlRunID ∧ value.subject.id ≠ "")
      (authorityError "admission_tombstone")
    return ({ snapshot with
      ready := snapshot.ready.drop (admissionKey value.controlRunID value.subject.id) }, excluded)
  | .lease value => do
    require (value.controlRunID = action.controlRunID ∧ value.subject.id ≠ "" ∧ value.state = .active)
      (authorityError "lease_outcome")
    return ({ snapshot with
      leases := snapshot.leases.put (admissionKey value.controlRunID value.subject.id) value
      leaseReceipts := snapshot.leaseReceipts.put event.id (leaseReceiptOf commit operation value) },
      excluded)
  | .leaseTombstone value => return ({ snapshot with
      leases := snapshot.leases.drop (admissionKey value.controlRunID value.subject.id)
      leaseReceipts := snapshot.leaseReceipts.put event.id (endedReceiptOf commit operation value) },
      excluded)
  | .recovery value => do
    require (value.identity.installationID = snapshot.installationID ∧
      value.identity.controlRunID = action.controlRunID) (authorityError "recovery_outcome")
    return ({ snapshot with
      recoveries := snapshot.recoveries.put (recoveryKey value.identity) value
      recoveryReceipts := snapshot.recoveryReceipts.put event.id
        (recoveryReceiptOf commit operation value) }, excluded)
  | .handoff _ => return (snapshot, excluded)

structure Replay where
  snapshot : SchedulerSnapshot := {}
  reservations : Table Event := ∅
  wantPosition : Nat := 1
  excluded : Table Bool := ∅

def headOf (runHeads : Table Nat) (runID : String) : Nat := (runHeads.get? runID).getD 0

def readPayload (error : Error) (read : Except Journal.Error Document) (wanted : String) : Except Error Document := do
  let payload ← relabel (fun _ => error) read
  require (validatePayload payload wanted = .ok ()) error
  return payload

def decodeRequest (error : Error) : Document → Except Error Admission.RequestEnvelope
  | .admissionRequest request => .ok request
  | _ => .error error

def decodeOutcome (error : Error) : Document → Except Error Admission.OutcomeEnvelope
  | .admissionOutcome outcome => .ok outcome
  | _ => .error error

/-- The outcome of an admission action, with its action; `request` and `membership` name the failing
step. -/
def admissionMember (request membership : String) (installationID : String) (reservation event : Event)
    (payload : Document) (evidence : Evidence) : Except Error (Action × Admission.OutcomeEnvelope) := do
  let action ← relabel (fun e => ⟨.authority, membership, .journal e⟩) evidence.action
  let requestPayload ← readPayload (authorityError request) evidence.request
    action.canonicalRequestDigest
  let envelope ← decodeRequest (authorityError membership) requestPayload
  let outcome ← decodeOutcome (authorityError membership) payload
  require (AdmissionMembership installationID action reservation event envelope outcome)
    (authorityError membership)
  return (action, outcome)

def Replay.seen (r : Replay) (installationID : String) (event : Event) : Replay :=
  { r with
    snapshot := { r.snapshot with
      installationID
      runHeads := r.snapshot.runHeads.put event.controlRunID event.runSequence }
    wantPosition := r.wantPosition + 1 }

def journalStep (policy : Policy) (installationID : String) (r : Replay) (event : Event)
    (evidence : Evidence) : Except Error Replay := do
  require (event.journalPosition = r.wantPosition ∧
    event.runSequence = headOf r.snapshot.runHeads event.controlRunID + 1)
    (authorityError "journal_feed")
  let r := r.seen installationID event
  let key := admissionKey event.controlRunID event.actionID
  if event.kind = .actionReserved then
    if ¬ beginsWith admissionActionStart event.actionID then return r
    else
      require (r.reservations.get? key = none) (authorityError "journal_reservation")
      return { r with reservations := r.reservations.put key event }
  else if ¬ event.kind.isOutcome then return r
  else if ¬ beginsWith admissionActionStart event.actionID then return r
  else
    let payload ← readPayload (authorityError "journal_payload") evidence.payload event.payloadDigest
    require (Admission.admissionComponent payload = .ok true) (authorityError "journal_payload")
    match r.reservations.get? key with
    | none => .error (authorityError "journal_membership")
    | some reservation =>
      let (action, outcome) ← admissionMember "journal_request" "journal_membership" installationID
        reservation event payload evidence
      let (snapshot, excluded) ←
        applyAdmissionOutcome policy r.snapshot r.excluded action reservation event outcome
      return { r with snapshot, excluded, reservations := r.reservations.drop key }

def enterPage (error : Error) (installationID : String) (next : GlobalCursor) : Except Error String := do
  let installationID := if installationID = "" then next.installationID else installationID
  require (bounded installationID 128 ∧ next.installationID = installationID ∧
    next.schemaVersion = Journal.schemaVersion) error
  return installationID

def journalReader (policy : Policy) : Reader Replay Error where
  enter := enterPage (authorityError "journal_feed")
  step := journalStep policy
  refused e := ⟨.authority, "journal_feed", .journal e⟩
  stuck := authorityError "journal_feed"

def rebuildJournal (policy : Policy) (store : MemoryStore) : Except Error SchedulerSnapshot := do
  let ((installationID, r), last) ← (journalReader policy).read store "" {} GlobalCursor.zero
  require (r.reservations = ∅) (authorityError "journal_reservation")
  return { r.snapshot with installationID, global := last }

end Paje.Scheduler
