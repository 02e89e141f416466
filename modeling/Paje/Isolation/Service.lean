import Mathlib.Data.List.Sort
import Paje.Journal.Log
import Paje.Lib.Keyed

/-!
The isolation service: the six operations on a run, the checks they make before they commit, and
the projection that a reader rebuilds from the run's events with checks of its own.
-/

namespace Paje.Isolation

open Text Journal

structure Projection where
  scope : RunScope
  revision : Nat := 0
  runPhase : RunPhase := .active
  tasks : List TaskState := []
  inbox : List InboxItem := []
  gates : List PendingWorkGate := []
  lastRunSequence : Nat := 0
  lastJournalPosition : Nat := 0
  deriving DecidableEq

namespace Projection

def task (p : Projection) (taskID : String) : Option TaskState := Keyed.lookup (·.taskID) taskID p.tasks

def inboxItem (p : Projection) (eventID : String) : Option InboxItem :=
  Keyed.lookup (·.eventID) eventID p.inbox

def gate (p : Projection) (gateID : String) : Option PendingWorkGate := Keyed.lookup (·.id) gateID p.gates

def hasPendingGate (p : Projection) (taskID : String) : Bool :=
  p.gates.any fun gate => gate.taskID = taskID && gate.state = some .pending

def deriveRunPhase (p : Projection) : RunPhase :=
  if p.runPhase = .frozenSecurity then .frozenSecurity
  else
    let nonterminal := p.tasks.filter fun task => task.phase ≠ .accepted ∧ task.phase ≠ .failed
    if nonterminal.any fun task => task.phase ≠ .deferred || !p.hasPendingGate task.taskID then .active
    else if nonterminal.isEmpty then .active
    else .quiescent

/-- The order in which `rebuild` returns tasks and gates. -/
def sorted (p : Projection) : Projection :=
  { p with
    tasks := p.tasks.insertionSort fun a b => bytes a.taskID ≤ bytes b.taskID
    gates := p.gates.insertionSort fun a b => bytes a.id ≤ bytes b.id }

end Projection

/-! ### Checks on the projection -/

def allowedTaskTransition : TaskPhase → TaskPhase → Bool
  | .discovered, next => next ∈ [.auditingReadOnly, .deferred, .needsInput, .failed]
  | .auditingReadOnly, next => next ∈ [.readyForOwnership, .deferred, .needsInput, .failed]
  | .readyForOwnership, next => next ∈ [.owned, .deferred, .needsInput, .failed]
  | .owned, next => next ∈ [.executing, .deferred, .needsInput, .rollbackRequired, .failed]
  | .executing, next => next ∈ [.verifying, .deferred, .needsInput, .rollbackRequired, .failed]
  | .verifying, next => next ∈ [.accepted, .deferred, .needsInput, .rollbackRequired, .failed]
  | .deferred, next => next ∈ [.readyForOwnership, .needsInput, .failed]
  | .needsInput, next => next ∈ [.readyForOwnership, .deferred, .failed]
  | .rollbackRequired, next => next ∈ [.executing, .verifying, .failed]
  | .accepted, _ | .failed, _ => false

def validateTaskTransition (p : Projection) (delta : TaskPhaseDelta) : Except Error Unit :=
  match p.task delta.taskID with
  | none => require (delta.fromPhase = none ∧ delta.toPhase = .discovered) .invalidTransition
  | some current =>
    require (current.attemptID = delta.attemptID ∧ delta.fromPhase = some current.phase ∧
      allowedTaskTransition current.phase delta.toPhase) .invalidTransition

def validateRunTransition (p : Projection) (delta : RunPhaseDelta) : Except Error Unit := do
  require (p.runPhase = delta.fromPhase) .invalidTransition
  require ((delta.toPhase = .frozenSecurity ∧ (delta.fromPhase = .active ∨ delta.fromPhase = .quiescent)) ∨
    (delta.fromPhase = .frozenSecurity ∧ delta.toPhase = .active)) .invalidTransition

def validateGateDefinition (gate : PendingWorkGate) : Except Error Unit := do
  require (validIdentifier gate.id 128 ∧ validIdentifier gate.taskID 128 ∧
    validIdentifier gate.resolverAuthority 128) .invalidOperation
  if gate.kind = .timeNotBefore then
    require (¬ gate.wakeAt.IsZero ∧ gate.wakeEventID = "") .invalidOperation
  else
    require (gate.wakeAt.IsZero ∧ validIdentifier gate.wakeEventID 128) .invalidOperation

section

variable (p : Projection)

def validateWake (delta : GateWakeDelta) (now : Time) : Except Error Unit := do
  match p.gate delta.gateID with
  | none => .error .notFound
  | some gate =>
    require (gate.state ≠ some .resolved) .gateResolved
    require (gate.resolverAuthority = delta.resolverAuthority) .resolverAuthority
    if gate.kind = .timeNotBefore then
      require (delta.wakeEventID = "" ∧ ¬ delta.wakeTime.IsZero ∧ delta.wakeTime = gate.wakeAt)
        .wakeFactMissing
      require (gate.wakeAt ≤ now) .wakeNotReady
    else
      require (delta.wakeTime.IsZero ∧ delta.wakeEventID = gate.wakeEventID) .wakeFactMissing
      require ((p.inboxItem delta.wakeEventID).isSome) .wakeFactMissing

/-- What each operation checks before it commits; `now` is the service's clock. -/
def Delta.validate (now : Time) : Delta → Except Error Unit
  | .taskPhase delta => do
    require (p.runPhase ≠ .frozenSecurity) .invalidTransition
    validateTaskTransition p delta
  | .runPhase delta => validateRunTransition p delta
  | .inboxAppend delta => require (p.inboxItem delta.eventID = none) (.journal .conflict)
  | .inboxAck delta =>
    match p.inboxItem delta.eventID with
    | none => .error .notFound
    | some item => do
      require (item.consumer = delta.consumer) .resolverAuthority
      require (item.acknowledgementReceipt = "") (.journal .conflict)
  | .gateRegister gate =>
    match p.task gate.taskID with
    | none => .error .notFound
    | some task => do
      require (task.phase = .deferred) .invalidTransition
      require (p.gate gate.id = none) (.journal .conflict)
  | .gateWake delta => do
    require (p.runPhase ≠ .frozenSecurity) .invalidTransition
    validateWake p delta now

def applyTaskPhase (delta : TaskPhaseDelta) : Projection :=
  let tasks := match p.task delta.taskID with
    | some _ =>
      let moved (task : TaskState) := { task with phase := delta.toPhase }
      Keyed.modify (·.taskID) delta.taskID moved p.tasks
    | none => p.tasks ++ [⟨delta.taskID, delta.attemptID, delta.toPhase⟩]
  let p := { p with tasks }
  { p with runPhase := p.deriveRunPhase }

def applyRunPhase (delta : RunPhaseDelta) : Projection :=
  let p := { p with runPhase := delta.toPhase }
  if delta.fromPhase = .frozenSecurity ∧ delta.toPhase = .active then
    { p with runPhase := p.deriveRunPhase }
  else p

def applyInboxAppend (event : Event) (delta : InboxAppendDelta) : Except Error Projection := do
  require (p.inboxItem delta.eventID = none) (.journal .conflict)
  let item : InboxItem := {
    journalPosition := event.journalPosition
    runSequence := event.runSequence
    eventID := delta.eventID
    correlationID := delta.correlationID
    taskID := delta.taskID
    attemptID := delta.attemptID
    externalActionID := delta.externalActionID
    actionGeneration := delta.actionGeneration
    producer := delta.producer
    consumer := delta.consumer
    payloadDigest := delta.payloadDigest }
  return { p with inbox := p.inbox ++ [item] }

def applyInboxAck (delta : InboxAckDelta) : Except Error Projection :=
  match p.inboxItem delta.eventID with
  | none => .error (.journal .invalidRecord)
  | some item => do
    require (item.consumer = delta.consumer ∧ item.acknowledgementReceipt = "") (.journal .conflict)
    let acknowledged (item : InboxItem) := { item with acknowledgementReceipt := delta.receiptID }
    return { p with inbox := Keyed.modify (·.eventID) delta.eventID acknowledged p.inbox }

def applyGateRegister (gate : PendingWorkGate) : Except Error Projection := do
  require (validateGateDefinition gate = .ok () ∧ gate.state = some .pending) (.journal .invalidRecord)
  require ((p.task gate.taskID).any (·.phase = .deferred)) (.journal .invalidRecord)
  require (p.gate gate.id = none) (.journal .conflict)
  let p := { p with gates := p.gates ++ [gate] }
  return if p.runPhase = .frozenSecurity then p else { p with runPhase := p.deriveRunPhase }

/-- A deferred task whose last pending gate was resolved becomes ready for ownership. -/
def wakeTask (taskID : String) : Except Error Projection :=
  if p.hasPendingGate taskID then pure p
  else match p.task taskID with
    | none => pure p
    | some task => do
      require (task.phase = .deferred) (.journal .invalidRecord)
      let ready (task : TaskState) := { task with phase := .readyForOwnership }
      return { p with tasks := Keyed.modify (·.taskID) taskID ready p.tasks }

def resolveGate (delta : GateWakeDelta) : Projection :=
  let resolved (gate : PendingWorkGate) :=
    { gate with state := some .resolved, wakeReceipt := delta.wakeReceipt }
  { p with gates := Keyed.modify (·.id) delta.gateID resolved p.gates }

def wakeFact (gate : PendingWorkGate) (delta : GateWakeDelta) : Except Error Unit :=
  if gate.kind = .timeNotBefore then
    require (delta.wakeEventID = "" ∧ delta.wakeTime = gate.wakeAt) (.journal .invalidRecord)
  else
    require (delta.wakeTime.IsZero ∧ delta.wakeEventID = gate.wakeEventID ∧
      (p.inboxItem delta.wakeEventID).isSome) (.journal .invalidRecord)

def applyGateWake (delta : GateWakeDelta) : Except Error Projection :=
  match p.gate delta.gateID with
  | none => .error (.journal .invalidRecord)
  | some gate => do
    require (gate.state = some .pending ∧ gate.resolverAuthority = delta.resolverAuthority)
      (.journal .conflict)
    wakeFact p gate delta
    let p ← wakeTask (resolveGate p delta) gate.taskID
    return { p with runPhase := p.deriveRunPhase }

def Delta.apply (event : Event) : Delta → Except Error Projection
  | .taskPhase delta => do
    validateTaskTransition p delta
    return applyTaskPhase p delta
  | .runPhase delta => do
    validateRunTransition p delta
    return applyRunPhase p delta
  | .inboxAppend delta => applyInboxAppend p event delta
  | .inboxAck delta => applyInboxAck p delta
  | .gateRegister gate => applyGateRegister p gate
  | .gateWake delta => applyGateWake p delta

end

/-! ### The shape of a persisted outcome -/

def optionalIdentifier (value : String) : Prop := value = "" ∨ validIdentifier value 128 = true

instance (value : String) : Decidable (optionalIdentifier value) := inferInstanceAs (Decidable (_ ∨ _))

def validInboxAppendDelta (delta : InboxAppendDelta) : Prop :=
  validIdentifier delta.eventID 128 ∧ validIdentifier delta.correlationID 128 ∧
    validIdentifier delta.taskID 128 ∧ validIdentifier delta.attemptID 128 ∧
    validIdentifier delta.externalActionID 128 ∧ 0 < delta.actionGeneration ∧
    validIdentifier delta.producer 128 ∧ validIdentifier delta.consumer 128 ∧
    validDigest delta.payloadDigest

def validInboxAckDelta (delta : InboxAckDelta) : Prop :=
  validIdentifier delta.eventID 128 ∧ validIdentifier delta.consumer 128 ∧ validIdentifier delta.receiptID 128

def validGateWakeDelta (delta : GateWakeDelta) : Prop :=
  validIdentifier delta.gateID 128 ∧ validIdentifier delta.resolverAuthority 128 ∧
    validIdentifier delta.wakeReceipt 128 ∧ optionalIdentifier delta.wakeEventID

/-- `validateEnvelopeShape`: the delta is complete and its action is about the same task. -/
def Delta.Shaped (action : Action) : Delta → Prop
  | .taskPhase delta => action.kind = .observe ∧ action.taskID = delta.taskID ∧
    action.attemptID = delta.attemptID ∧ validIdentifier delta.taskID 128 ∧
    optionalIdentifier delta.attemptID
  | .runPhase delta => action.kind = .observe ∧ action.taskID = "" ∧ action.attemptID = "" ∧
    validIdentifier delta.authority 128
  | .inboxAppend delta => action.kind = .callback ∧ action.taskID = delta.taskID ∧
    action.attemptID = delta.attemptID ∧ validInboxAppendDelta delta
  | .inboxAck delta => action.kind = .acknowledge ∧ action.taskID = "" ∧ action.attemptID = "" ∧
    validInboxAckDelta delta
  | .gateRegister gate => action.kind = .runGate ∧ action.taskID = gate.taskID ∧
    action.attemptID = "" ∧ validateGateDefinition gate = .ok () ∧ gate.state = some .pending ∧
    gate.wakeReceipt = ""
  | .gateWake delta => action.kind = .runGate ∧ action.taskID = "" ∧ action.attemptID = "" ∧ validGateWakeDelta delta

instance (delta : Delta) (action : Action) : Decidable (delta.Shaped action) := by
  cases delta <;> unfold Delta.Shaped
  all_goals try unfold validInboxAppendDelta
  all_goals try unfold validInboxAckDelta
  all_goals try unfold validGateWakeDelta
  all_goals infer_instance

variable [sha : Sha]

def RunScope.key (scope : RunScope) : String :=
  stableID "run" [scope.installationID, scope.controlRunID]

def isolationActionStart : String := "isolation_action_"

def RequestEnvelope.identity (request : RequestEnvelope) (start : String) : String :=
  stableID start [request.scope.key, request.input.semanticOperation, request.operationID]

def validateReplayBinding (request : RequestEnvelope) (outcome : OutcomeEnvelope) (action : Action)
    (event : Event) (p : Projection) : Except Error Unit := do
  require (request.schemaVersion = schemaVersion ∧ request.input.semanticOperation = outcome.delta.semanticOperation ∧
    request.scope = outcome.scope ∧ request.scope = p.scope ∧
    validIdentifier request.operationID 128 ∧ request.graphRevision ≠ 0) (.journal .invalidRecord)
  require (action.id = request.identity "isolation_action" ∧
    action.idempotencyKey = request.identity "isolation_key" ∧
    action.controlRunID = request.scope.controlRunID ∧
    action.graphRevision = request.graphRevision ∧
    action.expectedProjection = request.expectedRevision ∧
    event.id = request.identity "isolation_event" ∧
    event.controlRunID = request.scope.controlRunID ∧
    event.actionID = request.identity "isolation_action" ∧ event.kind = .actionResult)
    (.journal .invalidRecord)
  require (outcome.delta.Shaped action) (.journal .invalidRecord)
  require (request.input = outcome.delta) (.journal .invalidRecord)

/-- `applyOutcome`. Every event of a run carries the run's ID, which is the one that the action is
read under. -/
def applyOutcome (p : Projection) (event : Event) (evidence : Evidence) : Except Error Projection := do
  let payload ← relabel .journal evidence.payload
  relabel .journal (validatePayload payload event.payloadDigest)
  match payload with
  | .isolationOutcome outcome =>
    require (outcome.schemaVersion = schemaVersion ∧ outcome.scope = p.scope) (.journal .invalidRecord)
    let action ← relabel .journal evidence.action
    require (action.expectedProjection = p.revision ∧ action.controlRunID = p.scope.controlRunID)
      (.journal .conflict)
    let stored ← relabel .journal evidence.request
    relabel .journal (validatePayload stored action.canonicalRequestDigest)
    match stored with
    | .isolationRequest request =>
      validateReplayBinding request outcome action event p
      let p ← outcome.delta.apply p event
      return { p with revision := p.revision + 1 }
    | _ => .error (.journal .invalidRecord)
  | _ => .error (.journal .invalidRecord)

def Projection.moved (p : Projection) (event : Event) : Projection :=
  { p with lastRunSequence := event.runSequence, lastJournalPosition := event.journalPosition }

def applyEvent (p : Projection) (event : Event) (evidence : Evidence) : Except Error Projection :=
  if event.kind ≠ .actionResult ∨ beginsWith isolationActionStart event.actionID = false then
    .ok (p.moved event)
  else applyOutcome (p.moved event) event evidence

structure Operation where
  scope : RunScope
  operationID : String
  (graphRevision expectedRevision : Nat)

structure TaskPhaseRequest extends Operation where
  taskID : String
  attemptID : String := ""
  fromPhase : Option TaskPhase
  toPhase : TaskPhase

structure RunPhaseRequest extends Operation where
  (fromPhase toPhase : RunPhase)
  authority : String

structure CallbackRequest extends Operation where
  (eventID correlationID taskID attemptID externalActionID : String)
  actionGeneration : Nat
  (producer consumer payloadDigest : String)

structure AcknowledgeRequest extends Operation where
  (eventID consumer receiptID : String)

structure RegisterGateRequest extends Operation where
  gate : PendingWorkGate

structure WakeGateRequest extends Operation where
  (gateID resolverAuthority : String)
  wakeEventID : String := ""
  wakeTime : Time := 0

inductive Call where
  | transitionTask (request : TaskPhaseRequest)
  | transitionRun (request : RunPhaseRequest)
  | appendCallback (request : CallbackRequest)
  | acknowledgeInbox (request : AcknowledgeRequest)
  | registerGate (request : RegisterGateRequest)
  | wakeGate (request : WakeGateRequest)

structure OperationSpec extends Operation where
  kind : Kind
  taskID : String := ""
  attemptID : String := ""
  delta : Delta

structure Service where
  installationID : String
  installationValid : validIdentifier installationID 128 = true

namespace Service

section

variable (s : Service)

def ValidScope (scope : RunScope) : Prop :=
  validIdentifier scope.installationID 128 ∧ validIdentifier scope.controlRunID 128 ∧
    scope.installationID = s.installationID

instance (s : Service) (scope : RunScope) : Decidable (s.ValidScope scope) :=
  inferInstanceAs (Decidable (_ ∧ _))

def validateCommon (operation : Operation) (taskID attemptID : String) : Except Error Unit :=
  require (s.ValidScope operation.scope ∧ validIdentifier operation.operationID 128 ∧
    operation.graphRevision ≠ 0 ∧ optionalIdentifier taskID ∧ optionalIdentifier attemptID ∧
    (attemptID ≠ "" → taskID ≠ "")) .invalidOperation

def transitionTask (request : TaskPhaseRequest) : Except Error OperationSpec := do
  s.validateCommon request.toOperation request.taskID request.attemptID
  return { request.toOperation with
    kind := .observe, taskID := request.taskID, attemptID := request.attemptID
    delta := .taskPhase ⟨request.taskID, request.attemptID, request.fromPhase, request.toPhase⟩ }

def transitionRun (request : RunPhaseRequest) : Except Error OperationSpec := do
  s.validateCommon request.toOperation "" ""
  require (validIdentifier request.authority 128) .invalidOperation
  return { request.toOperation with
    kind := .observe
    delta := .runPhase ⟨request.fromPhase, request.toPhase, request.authority⟩ }

def appendCallback (request : CallbackRequest) : Except Error OperationSpec := do
  s.validateCommon request.toOperation request.taskID request.attemptID
  require (validIdentifier request.eventID 128 ∧ validIdentifier request.correlationID 128 ∧
    validIdentifier request.externalActionID 128 ∧ request.actionGeneration ≠ 0 ∧
    validIdentifier request.producer 128 ∧ validIdentifier request.consumer 128 ∧
    validDigest request.payloadDigest) .invalidOperation
  return { request.toOperation with
    kind := .callback, taskID := request.taskID, attemptID := request.attemptID
    delta := .inboxAppend {
      eventID := request.eventID
      correlationID := request.correlationID
      taskID := request.taskID
      attemptID := request.attemptID
      externalActionID := request.externalActionID
      actionGeneration := request.actionGeneration
      producer := request.producer
      consumer := request.consumer
      payloadDigest := request.payloadDigest } }

def acknowledgeInbox (request : AcknowledgeRequest) : Except Error OperationSpec := do
  s.validateCommon request.toOperation "" ""
  require (validIdentifier request.eventID 128 ∧ validIdentifier request.consumer 128 ∧
    validIdentifier request.receiptID 128) .invalidOperation
  return { request.toOperation with
    kind := .acknowledge
    delta := .inboxAck ⟨request.eventID, request.consumer, request.receiptID⟩ }

def registerGate (request : RegisterGateRequest) : Except Error OperationSpec := do
  s.validateCommon request.toOperation request.gate.taskID ""
  require (request.gate.state = none ∧ request.gate.wakeReceipt = "" ∧
    validateGateDefinition request.gate = .ok ()) .invalidOperation
  return { request.toOperation with
    kind := .runGate, taskID := request.gate.taskID
    delta := .gateRegister { request.gate with state := some .pending } }

def wakeGate (request : WakeGateRequest) : Except Error OperationSpec := do
  s.validateCommon request.toOperation "" ""
  require (validIdentifier request.gateID 128 ∧ validIdentifier request.resolverAuthority 128 ∧
    optionalIdentifier request.wakeEventID) .invalidOperation
  return { request.toOperation with
    kind := .runGate
    delta := .gateWake {
      gateID := request.gateID
      resolverAuthority := request.resolverAuthority
      wakeEventID := request.wakeEventID
      wakeTime := request.wakeTime
      -- the text of an instant stands for its RFC 3339 form
      wakeReceipt := stableID "gate_wake" [request.scope.key, request.gateID,
        request.resolverAuthority, request.wakeEventID, toString request.wakeTime] } }

def spec : Call → Except Error OperationSpec
  | .transitionTask request => s.transitionTask request
  | .transitionRun request => s.transitionRun request
  | .appendCallback request => s.appendCallback request
  | .acknowledgeInbox request => s.acknowledgeInbox request
  | .registerGate request => s.registerGate request
  | .wakeGate request => s.wakeGate request

end

end Service

/-! ### Reads and the iteration of `commit` -/

def Service.rebuild (s : Service) (store : MemoryStore) (scope : RunScope) :
    Except Error (Projection × RunCursor) := do
  require (s.ValidScope scope) .invalidScope
  let (p, cursor) ← Paging.readAll (fun cursor => relabel .journal (store.readRun cursor 1000))
    (fun p events _ => events.foldlM (store.replay applyEvent) p) (.journal .cursor)
    ((store.runOf scope.controlRunID).length + 1) (newRunCursor s.installationID scope.controlRunID)
    { scope }
  return (p.sorted, cursor)

def Service.globalCursor (s : Service) (store : MemoryStore) : Except Error GlobalCursor := do
  let (_, cursor) ← Paging.readAll (fun cursor => relabel .journal (store.feed cursor 1000))
    (fun _ _ _ => .ok ()) (.journal .cursor) (store.events.length + 1)
    (newGlobalCursor s.installationID) ()
  return cursor

namespace OperationSpec

section

variable (spec : OperationSpec)

def request : RequestEnvelope where
  schemaVersion := schemaVersion
  scope := spec.scope
  operationID := spec.operationID
  graphRevision := spec.graphRevision
  expectedRevision := spec.expectedRevision
  input := spec.delta

def outcome : OutcomeEnvelope := ⟨schemaVersion, spec.scope, spec.delta⟩

def action : Action where
  id := spec.request.identity "isolation_action"
  controlRunID := spec.scope.controlRunID
  taskID := spec.taskID
  attemptID := spec.attemptID
  kind := spec.kind
  graphRevision := spec.graphRevision
  expectedProjection := spec.expectedRevision
  canonicalRequestDigest := digest (.isolationRequest spec.request)
  idempotencyKey := spec.request.identity "isolation_key"

def event : Event where
  id := spec.request.identity "isolation_event"
  controlRunID := spec.scope.controlRunID
  actionID := spec.request.identity "isolation_action"
  kind := .actionResult
  payloadDigest := digest (.isolationOutcome spec.outcome)
  occurredAt := Time.unixEpoch

def check (store : MemoryStore) (p : Projection) (now : Time) : Except Error Bool :=
  match store.reservation spec.scope.controlRunID spec.action.id with
  | .ok existing => do
    require (existing = spec.action) (.journal .conflict)
    return true
  | .error .notFound => do
    require (p.revision = spec.expectedRevision) .revisionConflict
    spec.delta.validate p now
    return false
  | .error e => .error (.journal e)

def commitRequest (run : RunCursor) (journal : GlobalCursor) : CommitRequest where
  action := spec.action
  expectedRun := run
  expectedGlobal := journal
  requestPayload := .isolationRequest spec.request
  outcome := spec.event
  outcomePayload := .isolationOutcome spec.outcome

end

end OperationSpec

end Paje.Isolation
