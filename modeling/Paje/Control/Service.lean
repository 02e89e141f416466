import Paje.Control.Snapshot
import Paje.Journal.Store

/-!
The calls of the control-plane service on the snapshot of a run, and the store that keeps the
snapshots beside the journal. `now 0`, `now 1`, … are the readings of the clock during one call.
-/

namespace Paje.Control

open Text Journal

variable [sha : Sha]

structure Capacity where
  active : Primitive → Int
  projectActive : String → Int
  projectLimits : String → Int := fun _ => 0

structure ActiveOwnership where
  taskID : String
  (projectIDs mutable : List String)

structure Promotion where
  checkpoint : EvidenceRef
  (reason newOwner : String)
  (requiresMutation requiresRestart : Bool)
  mutable : List String

def validateOwnershipLease (taskID : String) (mutable : List String) (placement : ExecutionPlacement)
    (active : List ActiveOwnership) : Except Error Unit := do
  require (taskID ≠ "") .invalidPlacement
  require (placement.parallelismPrimitive = .ephemeralSubagent → ¬ blank placement.lifecycleOwner)
    .invalidPlacement
  require (∀ writer ∈ active, writer.taskID = taskID ∨ ¬ ownershipOverlaps mutable writer.mutable)
    .ownershipConflict

def validatePlacement (task : Task) (capabilities : CapabilitySnapshot) (capacity : Capacity)
    (active : List ActiveOwnership) : Except Error Unit := do
  validatePlacementFields task.placement
  relabel (fun _ => .capabilityUnavailable) capabilities.validate
  match capabilities.primitives.get? task.placement.parallelismPrimitive with
  | none => .error .capabilityUnavailable
  | some primitiveCapabilities =>
    require (∀ requirement ∈ task.placement.capabilityRequirements,
      primitiveCapabilities.supports requirement) .capabilityUnavailable
    require (primitiveCapabilities.concurrencyLimit > 0 →
      capacity.active task.placement.parallelismPrimitive < primitiveCapabilities.concurrencyLimit)
      .concurrencyExhausted
    require (∀ project ∈ task.projects, capacity.projectLimits project.id > 0 →
      capacity.projectActive project.id < capacity.projectLimits project.id) .concurrencyExhausted
    validateOwnershipLease task.id task.ownership.mutable task.placement active

/-- Only the writers that share a project with the task count. -/
def validateServiceAdmission (task : Task) (capabilities : CapabilitySnapshot) (capacity : Capacity)
    (active : List ActiveOwnership) : Except Error Unit :=
  validatePlacement task capabilities capacity (active.filter fun writer =>
    writer.projectIDs = [] || task.projects.any fun project => project.id ∈ writer.projectIDs)

def liveAttempts (snapshot : Snapshot) : List PlacementAttempt :=
  snapshot.attempts.values.filter fun attempt => !attemptTerminal attempt.state

def activeOwnership (snapshot : Snapshot) : Except Error (List ActiveOwnership) :=
  (liveAttempts snapshot).mapM fun existing => match taskByID snapshot.graph existing.taskID with
    | none => .error .invalidRecord
    | some task => .ok {
        taskID := existing.taskID
        projectIDs := task.projects.map (·.id)
        mutable := task.ownership.mutable }

def usedCapacity (snapshot : Snapshot) (active : List ActiveOwnership) : Capacity where
  active primitive := (liveAttempts snapshot).countP (·.primitive = primitive)
  projectActive id := (active.flatMap (·.projectIDs)).count id

def promotionTriggerFor (promotion : Promotion) : String :=
  if promotion.requiresMutation ∧ promotion.requiresRestart then "scope_ownership_isolation"
  else if promotion.requiresMutation then "scope_ownership"
  else if promotion.requiresRestart then "duration_isolation"
  else "capability"

/-- `Promote`: the task as a persistent session and the handoff to its new owner. -/
def promote (task : Task) (promotion : Promotion) (capabilities : CapabilitySnapshot) :
    Except Error (Task × Handoff) := do
  require (task.placement.parallelismPrimitive = .ephemeralSubagent ∧ promotion.checkpoint.id ≠ "" ∧
    validDigest promotion.checkpoint.digest ∧ promotion.reason ≠ "" ∧ promotion.newOwner ≠ "" ∧
    (promotion.requiresMutation ∨ promotion.requiresRestart)) .invalidPlacement
  require ((capabilities.primitives.get? .persistentSession).isSome ∧
    ∀ requirement ∈ requiredCapabilities .persistentSession,
      capabilities.supports .persistentSession requirement) .capabilityUnavailable
  let promoted := { task with
    placement := {
      parallelismPrimitive := .persistentSession
      executionPlacement := "isolated_persistent_session"
      placementRationale := promotion.reason
      capabilityRequirements := requiredCapabilities .persistentSession
      lifecycleOwner := promotion.newOwner
      fallback := "block" }
    ownership := if promotion.requiresMutation
      then { task.ownership with mutable := promotion.mutable } else task.ownership }
  let handoff := {
    id := "handoff-" ++ task.id ++ "-" ++ promotion.checkpoint.id
    producerTaskID := task.id
    consumerTaskID := task.id
    fromOwner := task.placement.lifecycleOwner
    toOwner := promotion.newOwner
    evidence := promotion.checkpoint
    acknowledgementRequired := true }
  return (promoted, handoff)

section

variable (snapshot : Snapshot)

def appendEvent (kind : EventKind) (taskID attemptID actionID digest : String) (now : Time) : Snapshot :=
  { snapshot with
    run := { snapshot.run with eventCursor := snapshot.run.eventCursor + 1 }
    events := snapshot.events ++ [{
      cursor := snapshot.run.eventCursor + 1
      controlRunID := snapshot.run.id
      kind, taskID, attemptID, actionID, digest
      createdAt := now }] }

def updateGraph (expectedRevision : UInt64) (graph : TaskGraph) : Except Error Snapshot := do
  require (snapshot.graph.revision = expectedRevision) .versionConflict
  validateGraph graph (some snapshot.graph)
  return { snapshot with graph, run := { snapshot.run with graphRevision := graph.revision } }

def predecessorReady (task : Task) (predecessorID : String) : Prop :=
  (∀ attempt ∈ snapshot.attempts.values, attempt.taskID = predecessorID →
    attemptTerminal attempt.state ∧ validDisposition attempt.disposition ∧
    snapshot.holdsEvidence attempt.terminalEvidence.id (fun evidence =>
      attempt.terminalEvidence.digest = evidenceDigest evidence && attempt.disposition.evidenceID = evidence.id) ∧
    validateCloseEvidence attempt.primitive attempt.closeEvidence = .ok ()) ∧
  (∃ attempt ∈ snapshot.attempts.values, attempt.taskID = predecessorID) ∧
  ∀ handoff ∈ snapshot.handoffs.values, handoff.producerTaskID = predecessorID →
    handoff.consumerTaskID = task.id → handoff.acknowledgementRequired → handoff.acknowledged

instance (snapshot : Snapshot) (task : Task) (predecessorID : String) :
    Decidable (predecessorReady snapshot task predecessorID) := inferInstanceAs (Decidable (_ ∧ _))

def validatePredecessorReadiness (task : Task) : Except Error Unit :=
  require (∀ predecessorID ∈ task.dependsOn, predecessorReady snapshot task predecessorID)
    .closePrecondition

/-- The attempt that `CreateAttempt` places for `task`. -/
def newAttempt (controlRunID : String) (task : Task)
    (capabilities : CapabilitySnapshot) : PlacementAttempt where
  id := stableID "attempt" [controlRunID, task.id, toString snapshot.graph.revision.toNat,
    toString (snapshot.attempts.entries.length + 1)]
  taskID := task.id
  primitive := task.placement.parallelismPrimitive
  capabilitySnapshot := capabilities
  lifecycleOwner := task.placement.lifecycleOwner
  state := if task.placement.parallelismPrimitive = .localSequential then .active else .reserved
  promotionTrigger := normalizedPromotionTrigger task.placement.promotionTrigger

def placeAttempt (controlRunID : String) (task : Task)
    (capabilities : CapabilitySnapshot) (now : Time) : Except Error (PlacementAttempt × Snapshot) := do
  let ready ← readyTasks snapshot.graph
  require (∃ candidate ∈ ready, candidate.id = task.id) .invalidPlacement
  validatePredecessorReadiness snapshot task
  let active ← activeOwnership snapshot
  validateServiceAdmission task capabilities (usedCapacity snapshot active) active
  let attempt := newAttempt snapshot controlRunID task capabilities
  let placed := { snapshot with
    attempts := snapshot.attempts.put attempt.id attempt
    graph := setTaskState snapshot.graph task.id
      (if attempt.primitive = .localSequential then .active else .dispatched) }
  return (attempt, appendEvent placed .placement task.id attempt.id ""
    (digestStrings ["placement", attempt.primitive.name, task.placement.lifecycleOwner]) now)

def createAttempt (controlRunID taskID : String)
    (capabilities : CapabilitySnapshot) (now : Nat → Time) : Except Error (PlacementAttempt × Snapshot) := do
  relabel (fun _ => .capabilityUnavailable) capabilities.validate
  match taskByID snapshot.graph taskID with
  | none => .error .notFound
  | some task =>
    match (liveAttempts snapshot).find? (·.taskID = taskID) with
    | some attempt =>
      require (attempt.primitive = task.placement.parallelismPrimitive ∧
        attempt.capabilitySnapshot.harnessID = capabilities.harnessID) .actionConflict
      return (attempt, snapshot)
    | none => placeAttempt snapshot controlRunID task capabilities (now 0)

end

def replacementAttempt (controlRunID : String) (source : PlacementAttempt) (promoted : Task)
    (handoff : Handoff) (capabilities : CapabilitySnapshot) : PlacementAttempt where
  id := stableID "attempt" [controlRunID, promoted.id, "promotion", source.id, handoff.id]
  taskID := promoted.id
  primitive := .persistentSession
  capabilitySnapshot := capabilities
  lifecycleOwner := promoted.placement.lifecycleOwner
  state := .reserved
  promotedFromAttemptID := source.id
  handoffID := handoff.id
  promotionTrigger := promoted.placement.promotionTrigger

def replaceTask (graph : TaskGraph) (promoted : Task) : TaskGraph :=
  { graph with tasks := Keyed.modify Task.id promoted.id (fun _ => promoted) graph.tasks }

def placePromoted (snapshot : Snapshot) (controlRunID : String) (source : PlacementAttempt)
    (promoted : Task) (handoff : Handoff) (capabilities : CapabilitySnapshot) (now : Nat → Time) :
    PlacementAttempt × Snapshot :=
  let promoted := { promoted with state := .dispatched }
  let replacement := replacementAttempt controlRunID source promoted handoff capabilities
  let handed := appendEvent { snapshot with
    graph := replaceTask snapshot.graph promoted
    handoffs := snapshot.handoffs.put handoff.id handoff } .handoff promoted.id "" ""
    (digestStrings ["promotion_handoff", handoff.id, handoff.evidence.digest]) (now 0)
  let placed := { handed with attempts := handed.attempts.put replacement.id replacement }
  (replacement, appendEvent placed .placement promoted.id replacement.id ""
    (digestStrings ["promotion_placement", replacement.id, source.id, handoff.id]) (now 1))

/-- `PromoteAttempt` of a source that has not been promoted yet. -/
def promoteSource (snapshot : Snapshot) (controlRunID : String) (source : PlacementAttempt)
    (promotion : Promotion) (capabilities : CapabilitySnapshot) (now : Nat → Time) :
    Except Error ((PlacementAttempt × Handoff) × Snapshot) := do
  require (source.primitive = .ephemeralSubagent) .actionIncomplete
  require (attemptTerminal source.state ∧ source.terminalEvidence = promotion.checkpoint)
    .actionIncomplete
  require (source.closeEvidence.kind = some .runtimeClose ∧ source.closeEvidence.receipt ≠ "")
    .actionIncomplete
  require (source.disposition.kind = some .handedOff ∧
    source.disposition.evidenceID = promotion.checkpoint.id) .actionIncomplete
  match taskByID snapshot.graph source.taskID with
  | none => .error .notFound
  | some task =>
    let (promoted, handoff) ← promote task promotion capabilities
    let promoted := { promoted with placement :=
      { promoted.placement with promotionTrigger := promotionTriggerFor promotion } }
    let active ← activeOwnership snapshot
    validateServiceAdmission promoted capabilities (usedCapacity snapshot active) active
    require (snapshot.holdsEvidence handoff.evidence.id fun _ => true) .notFound
    let (replacement, next) :=
      placePromoted snapshot controlRunID source promoted handoff capabilities now
    return ((replacement, handoff), next)

def promoteAttempt (snapshot : Snapshot) (controlRunID attemptID : String) (promotion : Promotion)
    (capabilities : CapabilitySnapshot) (now : Nat → Time) :
    Except Error ((PlacementAttempt × Option Handoff) × Snapshot) := do
  match snapshot.attempts.get? attemptID with
  | none => .error .notFound
  | some source =>
    match snapshot.attempts.values.find? (·.promotedFromAttemptID = attemptID) with
    | some existing => return ((existing, snapshot.handoffs.get? existing.handoffID), snapshot)
    | none =>
      let ((replacement, handoff), next) ←
        promoteSource snapshot controlRunID source promotion capabilities now
      return ((replacement, some handoff), next)

def singleShotAction : ActionKind → Bool
  | .dispatch | .interrupt | .close | .acknowledge | .callback => true
  | _ => false

def journalActionKind : ActionKind → Kind
  | .dispatch => .dispatch
  | .observe => .observe
  | .wait => .wait
  | .send => .send
  | .acknowledge => .acknowledge
  | .callback => .callback
  | .interrupt => .interrupt
  | .close => .closeRuntime

def operationCapability (kind : ActionKind) (primitive : Primitive) : Except HarnessError Capability :=
  match kind with
  | .dispatch => if primitive = .localSequential then .error .unsupportedOperation else .ok .dispatch
  | .observe => .ok .observe
  | .send => .ok .send
  | .wait => .ok .wait
  | .interrupt => .ok .interrupt
  | .acknowledge => .ok .acknowledge
  | .callback => .ok .callback
  | .close => .ok (match primitive with
    | .persistentSession => .archive
    | .ephemeralSubagent => .runtimeClose
    | .harnessNativeParallel => .deterministicAggregation
    | .localSequential => .localWork)

def stableActionID (controlRunID taskID attemptID : String) (graphRevision : Nat)
    (primitive : Primitive) (kind : ActionKind) (requestDigest : String) : Except HarnessError String := do
  require (¬ blank controlRunID ∧ ¬ blank taskID ∧ ¬ blank attemptID ∧ graphRevision ≠ 0 ∧
    validDigest requestDigest) .invalidRequest
  return "action_" ++ Sha.seedHex (joinNul ["paje-agent-action-v1", controlRunID, taskID, attemptID,
    toString graphRevision, primitive.name, kind.name, requestDigest])

def journalIdempotencyKey (controlRunID attemptID : String) (kind : ActionKind) (actionID : String) : String :=
  if singleShotAction kind then stableID "action_slot" [controlRunID, attemptID, kind.name]
  else actionID

def preparedBefore (actions : Table LifecycleAction) (kind : ActionKind) (requestDigest : String) :
    List String → Except Error (Option LifecycleAction)
  | [] => .ok none
  | actionID :: rest => match actions.get? actionID with
    | none => preparedBefore actions kind requestDigest rest
    | some action =>
      if action.kind ≠ kind then preparedBefore actions kind requestDigest rest
      else if action.requestDigest = requestDigest then .ok (some action)
      else if singleShotAction kind then .error .actionConflict
      else preparedBefore actions kind requestDigest rest

def newAction (snapshot : Snapshot) (controlRunID : String) (attempt : PlacementAttempt)
    (kind : ActionKind) (requestDigest actionID : String) (now : Nat → Time) : LifecycleAction × Action × Snapshot :=
  let action : LifecycleAction := {
    id := actionID, attemptID := attempt.id, kind, requestDigest, preparedAt := now 0 }
  let reservation : Action := {
    id := actionID, controlRunID, taskID := attempt.taskID, attemptID := attempt.id
    kind := journalActionKind kind
    graphRevision := snapshot.graph.revision.toNat
    expectedProjection := snapshot.version
    canonicalRequestDigest := requestDigest
    idempotencyKey := journalIdempotencyKey controlRunID attempt.id kind actionID }
  let prepared := { snapshot with
    actions := snapshot.actions.put actionID action
    attempts := snapshot.attempts.put attempt.id
      { attempt with actionIDs := attempt.actionIDs ++ [actionID] } }
  (action, reservation, appendEvent prepared .actionPrepared attempt.taskID attempt.id actionID
    (digestStrings ["prepare", actionID, requestDigest]) (now 1))

/-- `prepareAction`; without a reservation the action is reused. -/
def prepareAction (snapshot : Snapshot) (controlRunID attemptID : String) (kind : ActionKind)
    (requestDigest : String) (now : Nat → Time) : Except Error (LifecycleAction × Option (Action × Snapshot)) := do
  match snapshot.attempts.get? attemptID with
  | none => .error .notFound
  | some attempt =>
    let capability ← relabel .harness (operationCapability kind attempt.primitive)
    require (attempt.capabilitySnapshot.supports attempt.primitive capability) .capabilityUnavailable
    match ← preparedBefore snapshot.actions kind requestDigest attempt.actionIDs with
    | some action => return (action, none)
    | none =>
      let actionID ← relabel .harness (stableActionID controlRunID attempt.taskID attemptID
        snapshot.graph.revision.toNat attempt.primitive kind requestDigest)
      let (action, reservation, next) :=
        newAction snapshot controlRunID attempt kind requestDigest actionID now
      return (action, some (reservation, next))

def observeRequestDigest (controlRunID attemptID afterCursor : String) (afterSequence : Nat) : String :=
  digestStrings ["paje-control-observe-v1", controlRunID, attemptID, afterCursor, toString afterSequence]

/-- The checks that `PrepareObserve` makes first; it may find the action prepared before. -/
def observePreflight (snapshot : Snapshot) (controlRunID attemptID requestDigest afterCursor : String)
    (afterSequence : Nat) : Except Error (Option LifecycleAction) := do
  match snapshot.attempts.get? attemptID with
  | none => .error .actionConflict
  | some attempt =>
    require (requestDigest = observeRequestDigest controlRunID attemptID afterCursor afterSequence)
      .actionConflict
    require (attempt.capabilitySnapshot.supports attempt.primitive .observe) .capabilityUnavailable
    match (attempt.actionIDs.filterMap snapshot.actions.get?).find? fun action =>
        action.kind = .observe && action.requestDigest = requestDigest with
    | some action => return some action
    | none =>
      if attempt.capabilitySnapshot.supports attempt.primitive .cursor then
        require (afterCursor = attempt.lastCursor ∧ afterSequence = attempt.cursorSequence)
          .actionConflict
        return none
      else
        require (afterCursor = "" ∧ afterSequence = 0) .actionConflict
        return none

/-- `SafeDiagnostic`: no control characters and at most 1024 bytes of whole characters. -/
def safeDiagnostic (value : String) : String :=
  let kept := value.toList.filter fun c =>
    !(c.toNat < 0x20 || (0x7f ≤ c.toNat && c.toNat ≤ 0x9f))
  String.ofList ((kept.inits.reverse.find? fun front =>
    (String.ofList front).utf8ByteSize ≤ 1024).getD [])

def cloneActionResult (result : ActionResult) : ActionResult :=
  { result with diagnostic := safeDiagnostic result.diagnostic }

def canonicalResultDigest (result : ActionResult) : String :=
  digest (.controlResult { result with
    diagnostic := safeDiagnostic result.diagnostic
    runtimeWorkIDs := result.runtimeWorkIDs.insertionSort (· ≤ ·) })

def completedEventMatches (snapshot : Snapshot) (attempt : PlacementAttempt) (candidate : WorkEvent) : Bool :=
  completedWith snapshot.actions attempt.actionIDs fun action =>
    (action.kind = .observe || action.kind = .wait) && candidate ∈ action.result.events

/-- Keep an event that was not observed before; a repeated one has to be the same. -/
def trustEvent (snapshot : Snapshot) (attempt : PlacementAttempt) (trusted : List WorkEvent)
    (event : WorkEvent) : Except Error (List WorkEvent) :=
  match attempt.observedEvents.get? event.id with
  | some digest => do
    require (digest = event.resultDigest ∧ completedEventMatches snapshot attempt event) .actionConflict
    return trusted
  | none => .ok (trusted ++ [event])

/-- How `completeAction` reports the harness's errors. -/
def resultError : HarnessError → Error
  | .cursorRegression => .cursorRegression
  | .unexpectedRuntimeIdentity => .harness .unexpectedRuntimeIdentity
  | _ => .actionConflict

/-- The checks of `completeAction` on a result; it returns the events not observed before. -/
def checkResult (snapshot : Snapshot) (action : LifecycleAction) (attempt : PlacementAttempt)
    (result : ActionResult) : Except Error (List WorkEvent) := do
  let supports := attempt.capabilitySnapshot.supports attempt.primitive
  let trusted ← result.events.foldlM (trustEvent snapshot attempt) []
  let repeated : Bool := trusted = [] ∧ result.events ≠ []
  require (repeated → result.cursor = attempt.lastCursor ∧
    result.cursorSequence = attempt.cursorSequence) .actionConflict
  relabel resultError (validateActionResult action.kind attempt.primitive
    (if action.kind = .dispatch then [] else attempt.runtimeWorkIDs)
    (if repeated then 0 else attempt.cursorSequence) (supports .cursor) { result with events := trusted })
  require (action.kind = .send ∨ action.kind = .acknowledge → ¬ blank result.messageReceipt)
    .actionConflict
  require (result.runtimeWorkIDs ≠ [] → supports .runtimeIdentity)
    (.harness .unexpectedRuntimeIdentity)
  require (action.kind = .dispatch → attempt.primitive = .persistentSession →
    result.runtimeWorkIDs.length = 1) (.harness .unexpectedRuntimeIdentity)
  require (action.kind ≠ .dispatch → result.runtimeWorkIDs ≠ [] →
    attempt.runtimeWorkIDs = result.runtimeWorkIDs) .actionConflict
  return trusted

def observeEvents (attempt : PlacementAttempt) : List WorkEvent → PlacementAttempt
  | [] => attempt
  | event :: rest =>
    let observed := { attempt with
      observedEvents := attempt.observedEvents.put event.id event.resultDigest }
    if event.terminal then { observed with terminalObserved := true }
    else observeEvents observed rest

def validateClosePrerequisites (snapshot : Snapshot) (attempt : PlacementAttempt) : Except Error Unit :=
  match attempt.primitive with
  | .persistentSession =>
    require (attempt.terminalObserved ∧ ∃ callback ∈ snapshot.callbacks.get? attempt.id,
      callback.runtimeChildID ≠ "" ∧
      (∃ session ∈ snapshot.sessions.values, session.attemptID = attempt.id) ∧
      ∀ session ∈ snapshot.sessions.values, session.attemptID = attempt.id →
        session.runtimeIDAcknowledged ∧ session.runtimeChildID = callback.runtimeChildID)
      .actionIncomplete
  | .ephemeralSubagent => require attempt.terminalObserved .actionIncomplete
  | _ => .ok ()

def newSession (controlRunID : String) (attempt : PlacementAttempt) (result : ActionResult)
    (runtimeID : String) : AgentSession where
  id := stableID "session" [controlRunID, attempt.id, runtimeID]
  attemptID := attempt.id
  taskID := attempt.taskID
  harnessID := attempt.capabilitySnapshot.harnessID
  runtimeChildID := runtimeID
  lastCursor := result.cursor
  state := .registered

def registerSession (snapshot : Snapshot) (controlRunID : String) (attempt : PlacementAttempt)
    (result : ActionResult) : Except Error (Table AgentSession) :=
  match attempt.primitive, result.runtimeWorkIDs with
  | .persistentSession, runtimeID :: _ => do
    let session := newSession controlRunID attempt result runtimeID
    require (∀ existing ∈ snapshot.sessions.get? session.id, existing.runtimeChildID = runtimeID)
      .actionConflict
    return snapshot.sessions.put session.id session
  | _, _ => .ok snapshot.sessions

def archiveSessions (sessions : Table AgentSession) (attemptID receipt : String) : Table AgentSession :=
  sessions.map fun session => if session.attemptID = attemptID
    then { session with archiveReceipt := receipt, state := .archived } else session

def closedAttempt (attempt : PlacementAttempt) (evidence : CloseEvidence) : PlacementAttempt :=
  { attempt with
    closeEvidence := evidence
    state := if attempt.terminalEvidence.id ≠ "" then .completed else attempt.state }

/-- What a completed action changes besides itself: the attempt, the sessions and the graph. -/
def applyResult (snapshot : Snapshot) (controlRunID : String) (action : LifecycleAction)
    (attempt : PlacementAttempt) (result : ActionResult) (trusted : List WorkEvent) :
    Except Error (PlacementAttempt × Table AgentSession × TaskGraph) :=
  match action.kind with
  | .dispatch => do
    let sessions ← registerSession snapshot controlRunID attempt result
    return ({ attempt with runtimeWorkIDs := result.runtimeWorkIDs, state := .active }, sessions,
      setTaskState snapshot.graph attempt.taskID .active)
  | .observe | .wait => .ok (observeEvents attempt trusted, snapshot.sessions, snapshot.graph)
  | .close => do
    validateClosePrerequisites snapshot attempt
    let evidence ← controlCloseEvidence result.closeEvidence
    validateCloseEvidence attempt.primitive evidence
    require (attempt.closeEvidence.kind ≠ none → attempt.closeEvidence = evidence) .actionConflict
    return (closedAttempt attempt evidence, if attempt.primitive = .persistentSession
        then archiveSessions snapshot.sessions attempt.id evidence.receipt else snapshot.sessions,
      snapshot.graph)
  | _ => .ok (attempt, snapshot.sessions, snapshot.graph)

def moveCursor (attempt : PlacementAttempt) (result : ActionResult) : PlacementAttempt :=
  if result.cursor ≠ "" ∧ result.cursorSequence > attempt.cursorSequence
  then { attempt with lastCursor := result.cursor, cursorSequence := result.cursorSequence }
  else attempt

/-- `completeAction` of an action that is open. -/
def settleAction (snapshot : Snapshot) (controlRunID : String) (action : LifecycleAction)
    (result : ActionResult) (now : Nat → Time) : Except Error ((LifecycleAction × PlacementAttempt) × Snapshot) := do
  match snapshot.attempts.get? action.attemptID with
  | none => .error .invalidRecord
  | some attempt =>
    let trusted ← checkResult snapshot action attempt result
    let completed := { action with
      completed := true
      result := cloneActionResult result
      completedAt := now 0 }
    let (attempt, sessions, graph) ← applyResult snapshot controlRunID action
      (moveCursor attempt result) result trusted
    let next := { snapshot with
      actions := snapshot.actions.put action.id completed
      attempts := snapshot.attempts.put attempt.id attempt
      sessions, graph }
    return ((completed, attempt), appendEvent next .actionCompleted attempt.taskID attempt.id action.id
      (digestStrings ["complete", action.id, result.resultDigest]) (now 1))

def completeAction (snapshot : Snapshot) (controlRunID actionID : String) (result : ActionResult) (now : Nat → Time) :
    Except Error ((LifecycleAction × Option PlacementAttempt) × Snapshot) := do
  match snapshot.actions.get? actionID with
  | none => .error .notFound
  | some action =>
    require (¬ action.ambiguous) .ambiguousDispatch
    require (result.actionID = actionID ∧ ¬ blank result.resultDigest) .actionConflict
    if action.completed then
      require (canonicalResultDigest action.result = canonicalResultDigest result) .actionConflict
      return ((action, snapshot.attempts.get? action.attemptID), snapshot)
    else
      let ((completed, attempt), next) ← settleAction snapshot controlRunID action result now
      return ((completed, some attempt), next)

def ambiguityCode (action : LifecycleAction) (attempt : PlacementAttempt) : String :=
  match action.kind with
  | .dispatch => if attempt.primitive = .persistentSession then "ambiguous_create"
    else "ambiguous_dispatch"
  | .interrupt => "ambiguous_interrupt"
  | .close => "ambiguous_close"
  | .acknowledge => "ambiguous_acknowledge"
  | .callback => "ambiguous_callback"
  | _ => "ambiguous_action"

def ambiguityError (code : String) : Error :=
  if code = "ambiguous_create" then .ambiguousCreate else .ambiguousDispatch

section

variable (snapshot : Snapshot)

def blockAttempt (action : LifecycleAction) (attempt : PlacementAttempt) : Snapshot :=
  let code := ambiguityCode action attempt
  { snapshot with
    actions := snapshot.actions.put action.id { action with ambiguous := true, ambiguityCode := code }
    attempts := snapshot.attempts.put attempt.id { attempt with state := .blocked, blockCode := code }
    run := { snapshot.run with status := .blocked }
    graph := setTaskState snapshot.graph attempt.taskID .needsInput }

def markAmbiguous (actionID : String) : Except Error Snapshot := do
  match snapshot.actions.get? actionID with
  | none => .error .notFound
  | some action =>
    require (¬ action.completed) .actionConflict
    match snapshot.attempts.get? action.attemptID with
    | none => .error .invalidRecord
    | some attempt => return blockAttempt snapshot action attempt

/-! ### Sessions, callbacks and messages -/

def advanceCursor (attemptID cursor : String) (sequence : Nat) :
    Except Error (PlacementAttempt × Snapshot) := do
  match snapshot.attempts.get? attemptID with
  | none => .error .notFound
  | some attempt =>
    require (cursor ≠ "" ∧ attempt.cursorSequence < sequence) .cursorRegression
    let moved := { attempt with lastCursor := cursor, cursorSequence := sequence }
    return (moved, { snapshot with
      attempts := snapshot.attempts.put attemptID moved
      sessions := snapshot.sessions.map fun session => if session.attemptID = attemptID
        then { session with lastCursor := cursor } else session })

def sessionOf (attemptID : String) : Option AgentSession :=
  snapshot.sessions.values.find? (·.attemptID = attemptID)

def acknowledgeRuntimeID (controlRunID attemptID runtimeChildID : String) :
    Except Error (AgentSession × Snapshot) := do
  match snapshot.attempts.get? attemptID, sessionOf snapshot attemptID with
  | some attempt, some session =>
    require (session.runtimeChildID = runtimeChildID) .actionConflict
    let expected := registrationMessageDigest controlRunID attemptID runtimeChildID
    require (completedAcknowledgement snapshot.actions attempt.actionIDs runtimeChildID expected)
      .actionIncomplete
    let acknowledged := { session with
      runtimeIDAcknowledged := true
      registrationMessageDigest := expected
      state := .acknowledged }
    return (acknowledged, { snapshot with
      sessions := snapshot.sessions.put session.id acknowledged })
  | _, _ => .error .notFound

end

def callbackEffect (graph : TaskGraph) (taskID : String) : CallbackStatus → SessionState × TaskGraph
  | .done | .doneWithConcerns => (.completed, graph)
  | .blocked | .needsInput => (.active, setTaskState graph taskID .needsInput)

/-- `RecordCallback` of an attempt that has no callback yet. -/
def newCallback (snapshot : Snapshot) (attempt : PlacementAttempt) (callback : CompletionCallback)
    (now : Nat → Time) : Except Error Snapshot := do
  match sessionOf snapshot callback.attemptID with
  | none => .error .notFound
  | some session =>
    require (session.runtimeChildID = callback.runtimeChildID) .actionConflict
    require session.runtimeIDAcknowledged .actionIncomplete
    require (completedCallback snapshot.actions attempt.actionIDs callback.runtimeChildID
      (completionCallbackDigest callback)) .actionIncomplete
    let (state, graph) := callbackEffect snapshot.graph attempt.taskID callback.status
    let recorded := { snapshot with
      sessions := snapshot.sessions.put session.id { session with state }
      graph
      callbacks := snapshot.callbacks.put callback.attemptID callback }
    return appendEvent recorded .actionCompleted attempt.taskID attempt.id ""
      (digestStrings ["callback", callback.runtimeChildID, callback.headSHA, callback.status.name])
      (now 0)

def recordCallback (snapshot : Snapshot) (callback : CompletionCallback) (now : Nat → Time) :
    Except Error Snapshot := do
  match snapshot.attempts.get? callback.attemptID with
  | none => .error .invalidRecord
  | some attempt =>
    require (attempt.primitive = .persistentSession ∧ validCallback callback) .invalidRecord
    match snapshot.callbacks.get? callback.attemptID with
    | some existing =>
      require (existing = callback) .actionConflict
      return snapshot
    | none => newCallback snapshot attempt callback now

def validateSendMessage (snapshot : Snapshot) (message : Message) : Except Error Unit :=
  require (¬ message.acknowledged ∧ message.id ≠ "" ∧ validDigest message.digest ∧
    messageScopeAllowed snapshot.graph message.fromTaskID message.toTaskID) .invalidGraph

def sendInput (message : Message) : SendInput :=
  ⟨message.id, message.fromTaskID, message.toTaskID, message.kind, message.digest⟩

def sendRequestDigest (message : Message) : String := digest (.controlSend (sendInput message))

section

variable (snapshot : Snapshot)

def addMessage (message : Message) (now : Time) : Snapshot :=
  appendEvent { snapshot with messages := snapshot.messages.put message.id message }
    (if message.kind = .dependencyHandoff then .handoff else .steering) message.toTaskID "" ""
    (digestStrings ["message", message.id, message.digest]) now

def sendMessage (message : Message) (now : Nat → Time) : Except Error (Message × Snapshot) := do
  validateSendMessage snapshot message
  match snapshot.messages.get? message.id with
  | some existing =>
    require (sendInput existing = sendInput message) .actionConflict
    return (existing, snapshot)
  | none => return (message, addMessage snapshot message (now 0))

def sendMessageBoundToAction (message : Message) (actionID : String) : Bool :=
  let bound := snapshot.actions.entries.filter fun entry => entry.2.kind = .send &&
    entry.2.completed && entry.2.requestDigest = sendRequestDigest message
  bound ≠ [] && bound.all (·.1 = actionID)

def completeSend (controlRunID attemptID actionID : String)
    (result : ActionResult) (message : Message) (now : Nat → Time) :
    Except Error ((LifecycleAction × Option PlacementAttempt × Message) × Snapshot) := do
  validateSendMessage snapshot message
  match snapshot.actions.get? actionID with
  | none => .error .notFound
  | some action =>
    require (action.kind = .send ∧ action.attemptID = attemptID ∧
      action.requestDigest = sendRequestDigest message) .actionConflict
    require (∀ existing ∈ snapshot.messages.get? message.id, sendInput existing = sendInput message ∧
      sendMessageBoundToAction snapshot existing actionID) .actionConflict
    let ((completed, attempt), next) ← completeAction snapshot controlRunID actionID result now
    match snapshot.messages.get? message.id with
    | some existing => return ((completed, attempt, existing), next)
    | none => return ((completed, attempt, message), addMessage next message (now 2))

def acknowledgeMessage (messageID taskID : String) : Except Error (Message × Snapshot) := do
  match snapshot.messages.get? messageID with
  | none => .error .notFound
  | some message =>
    require (message.toTaskID = taskID) .actionConflict
    let acknowledged := { message with acknowledged := true }
    return (acknowledged, { snapshot with messages := snapshot.messages.put messageID acknowledged })

/-! ### Evidence, disposition and handoffs -/

def recordEvidence (evidence : Evidence) (now : Nat → Time) : Except Error Snapshot := do
  validateEvidence evidence snapshot
  match snapshot.evidence.get? evidence.id with
  | some existing =>
    require (existing = evidence) .evidenceImmutable
    return snapshot
  | none =>
    return appendEvent { snapshot with evidence := snapshot.evidence.put evidence.id evidence }
      .evidence evidence.taskID evidence.attemptID ""
      (digestStrings ["evidence", evidence.id, evidence.headSHA, evidence.ownedPathsDigest]) (now 0)

def disposed (attempt : PlacementAttempt) (disposition : Disposition) (now : Time) : Snapshot :=
  appendEvent { snapshot with
    attempts := snapshot.attempts.put attempt.id { attempt with disposition }
    sessions := snapshot.sessions.map fun session => if session.attemptID = attempt.id
      then { session with disposition } else session }
    .disposition attempt.taskID attempt.id ""
    (digestStrings ["disposition", (disposition.kind.map (·.name)).getD "", disposition.evidenceID]) now

def setDisposition (attemptID : String) (disposition : Disposition)
    (now : Nat → Time) : Except Error (PlacementAttempt × Snapshot) := do
  require (validDisposition disposition) .closePrecondition
  require (snapshot.holdsEvidence disposition.evidenceID fun _ => true) .notFound
  match snapshot.attempts.get? attemptID with
  | none => .error .notFound
  | some attempt =>
    require (attempt.disposition.kind ≠ none → attempt.disposition = disposition) .evidenceImmutable
    if attempt.disposition = disposition then return (attempt, snapshot)
    else return ({ attempt with disposition }, disposed snapshot attempt disposition (now 0))

/-- Only local work is closed without a provider. -/
def closeAttempt (attemptID : String) (evidence : CloseEvidence) :
    Except Error (PlacementAttempt × Snapshot) := do
  match snapshot.attempts.get? attemptID with
  | none => .error .notFound
  | some attempt =>
    validateCloseEvidence attempt.primitive evidence
    require (attempt.primitive = .localSequential) .actionIncomplete
    validateClosePrerequisites snapshot attempt
    require (attempt.closeEvidence.kind ≠ none → attempt.closeEvidence = evidence) .actionConflict
    let closed := closedAttempt attempt evidence
    return (closed, { snapshot with attempts := snapshot.attempts.put attemptID closed })

def attachTerminalEvidence (attemptID : String) (reference : EvidenceRef) :
    Except Error (PlacementAttempt × Snapshot) := do
  match snapshot.attempts.get? attemptID with
  | none => .error .notFound
  | some attempt =>
    require (snapshot.holdsEvidence reference.id (fun _ => true) ∧ validDigest reference.digest)
      .notFound
    require (snapshot.holdsEvidence reference.id (reference.digest = evidenceDigest ·)) .actionConflict
    require (attempt.terminalEvidence.id ≠ "" → attempt.terminalEvidence = reference)
      .evidenceImmutable
    let attached := { attempt with
      terminalEvidence := reference
      state := if attempt.closeEvidence.kind ≠ none then .completed else attempt.state }
    return (attached, { snapshot with attempts := snapshot.attempts.put attemptID attached })

def addHandoff (handoff : Handoff) (now : Nat → Time) : Except Error Snapshot := do
  require (handoff.id ≠ "" ∧ (taskByID snapshot.graph handoff.producerTaskID).isSome ∧
    (∃ consumer ∈ taskByID snapshot.graph handoff.consumerTaskID,
      handoff.producerTaskID ∈ consumer.dependsOn ∨ handoff.producerTaskID = consumer.id) ∧
    snapshot.holdsEvidence handoff.evidence.id (handoff.evidence.digest = evidenceDigest ·))
    .invalidGraph
  match snapshot.handoffs.get? handoff.id with
  | some existing =>
    require (existing = handoff) .actionConflict
    return snapshot
  | none =>
    return appendEvent { snapshot with handoffs := snapshot.handoffs.put handoff.id handoff }
      .handoff handoff.consumerTaskID "" ""
      (digestStrings ["handoff", handoff.id, handoff.evidence.digest]) (now 0)

def acknowledgeHandoff (handoffID : String) : Except Error (Handoff × Snapshot) := do
  match snapshot.handoffs.get? handoffID with
  | none => .error .notFound
  | some handoff =>
    let acknowledged := { handoff with acknowledged := true }
    return (acknowledged, { snapshot with handoffs := snapshot.handoffs.put handoffID acknowledged })

/-- What `CloseControlRun` saves for a run that is not closed, and the error it returns with it. -/
def closeRun (controlRunID : String) (now : Nat → Time) : Snapshot × Option Error :=
  match closeSnapshot snapshot (now 0) with
  | .ok closed => (appendEvent closed .close "" "" "" (digestStrings ["closed", controlRunID]) (now 1), none)
  | .error error => ({ snapshot with run := { snapshot.run with
      status := .closing
      close := { snapshot.run.close with
        pending := pendingWork snapshot
        code := "cleanup_incomplete" }
      updatedAt := now 1 } }, some error)

end

end Paje.Control
