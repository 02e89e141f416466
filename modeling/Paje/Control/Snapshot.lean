import Paje.Control.Graph
import Paje.Journal.Document

/-!
A snapshot of a control run: the checks every stored snapshot passes, the checks that relate it to
its successor, and the close of a run.
-/

namespace Paje.Control

open Text Journal

variable [sha : Sha]

def digestStrings (values : List String) : String := "sha256:" ++ Sha.seedHex (joinNul values)

def registrationMessageDigest (controlRunID attemptID runtimeChildID : String) : String :=
  digestStrings ["registration_message", controlRunID, attemptID, parentAddress, runtimeChildID]

def completionCallbackDigest (callback : CompletionCallback) : String :=
  digestStrings ["completion_callback", callback.attemptID, callback.runtimeChildID,
    callback.status.name, callback.branch, callback.baseSHA, callback.headSHA, callback.pushedSHA,
    callback.ownedPathsDigest, callback.testsDigest, callback.handoffsDigest, callback.concernsDigest,
    callback.reportRef, callback.recommendedParentAction]

def evidenceDigest (evidence : Evidence) : String := digest (.controlEvidence evidence)

/-- The events of a result while `ValidateActionResult` reads them. -/
structure EventsRead where
  seen : List (String × String) := []
  sequence : Nat

def readEvent (expectedRuntimeWorkIDs : List String) (cursorRequired : Bool) (state : EventsRead)
    (event : WorkEvent) : Except HarnessError EventsRead := do
  require (¬ blank event.id ∧ ¬ blank event.kind ∧ validDigest event.resultDigest ∧
    (event.cursor = "" ↔ event.cursorSequence = 0)) .actionMismatch
  require (cursorRequired → event.cursor ≠ "") .actionMismatch
  match state.seen.lookup event.id with
  | some previous =>
    .error (if previous ≠ event.resultDigest then .actionConflict else .actionMismatch)
  | none =>
    require (event.cursorSequence > 0 → state.sequence < event.cursorSequence) .cursorRegression
    require (expectedRuntimeWorkIDs ≠ [] → event.runtimeWorkID ≠ "" ∧ event.runtimeWorkID ∈ expectedRuntimeWorkIDs)
      .unexpectedRuntimeIdentity
    require (expectedRuntimeWorkIDs = [] → event.runtimeWorkID = "") .unexpectedRuntimeIdentity
    return {
      seen := (event.id, event.resultDigest) :: state.seen
      sequence := if event.cursorSequence > 0 then event.cursorSequence else state.sequence }

/-- `agentharness.ValidateCloseEvidence`: the kind that closes a placement of the primitive. -/
def closesPrimitive : Primitive → Option CloseKind → Bool
  | .persistentSession, kind => kind = some .archive
  | .ephemeralSubagent, kind => kind = some .runtimeClose
  | .harnessNativeParallel, kind => kind = some .aggregate || kind = some .cancel
  | .localSequential, kind => kind = some .inactive

def validateHarnessCloseEvidence (primitive : Primitive) (evidence : CloseEvidence) : Except HarnessError Unit := do
  require (¬ blank evidence.receipt ∧ validDigest evidence.digest) .actionMismatch
  require (closesPrimitive primitive evidence.kind) .actionMismatch

def validateActionResult (kind : ActionKind) (primitive : Primitive)
    (expectedRuntimeWorkIDs : List String) (previousCursorSequence : Nat) (cursorRequired : Bool)
    (result : ActionResult) : Except HarnessError Unit := do
  require (¬ blank result.actionID ∧ validDigest result.resultDigest) .actionMismatch
  require (result.cursor = "" ↔ result.cursorSequence = 0) .actionMismatch
  require (cursorRequired ∧ (kind = .observe ∨ kind = .wait) → result.cursor ≠ "") .actionMismatch
  require (result.cursorSequence > 0 → previousCursorSequence < result.cursorSequence) .cursorRegression
  require ((∀ runtimeID ∈ result.runtimeWorkIDs, ¬ blank runtimeID ∧
    ¬ containsAny runtimeID [13, 10, 0]) ∧ result.runtimeWorkIDs.Nodup) .unexpectedRuntimeIdentity
  require (kind ≠ .dispatch → expectedRuntimeWorkIDs = result.runtimeWorkIDs) .unexpectedRuntimeIdentity
  require (result.events ≠ [] → kind = .observe ∨ kind = .wait) .actionMismatch
  let _ ← result.events.foldlM (readEvent expectedRuntimeWorkIDs cursorRequired)
    { sequence := previousCursorSequence }
  require (∀ last ∈ result.events.getLast?, last.cursor ≠ "" →
    result.cursor = last.cursor ∧ result.cursorSequence = last.cursorSequence) .actionMismatch
  if kind = .close then validateHarnessCloseEvidence primitive result.closeEvidence
  else require (result.closeEvidence = {}) .actionMismatch

def attemptTerminal : AttemptState → Bool
  | .completed | .failed | .canceled => true
  | _ => false

def validDisposition (disposition : Disposition) : Bool :=
  match disposition.kind with
  | none => false
  | some kind => disposition.evidenceID ≠ "" && (kind ≠ .discarded || disposition.reason ≠ "")

def validCallback (callback : CompletionCallback) : Bool :=
  callback.attemptID ≠ "" && callback.runtimeChildID ≠ "" && validGitSHA callback.baseSHA &&
    validGitSHA callback.headSHA && (callback.pushedSHA = "" || validGitSHA callback.pushedSHA) &&
    validDigest callback.ownedPathsDigest && validDigest callback.testsDigest &&
    !blank callback.recommendedParentAction

/-- `validateCloseEvidence` of the control plane. -/
def validateCloseEvidence (primitive : Primitive) (evidence : CloseEvidence) : Except Error Unit := do
  require (evidence.receipt ≠ "" ∧ validDigest evidence.digest) .cleanupIncomplete
  require (closesPrimitive primitive evidence.kind) .cleanupIncomplete

def controlCloseEvidence (evidence : CloseEvidence) : Except Error CloseEvidence := do
  require (evidence.kind ≠ none) .cleanupIncomplete
  return evidence

section

variable (actions : Table LifecycleAction)

def completedWith (actionIDs : List String) (p : LifecycleAction → Bool) : Bool :=
  actionIDs.any fun id => (actions.get? id).any fun action =>
    action.completed && !action.ambiguous && p action

def completedAcknowledgement (actionIDs : List String) (runtimeChildID expectedDigest : String) : Bool :=
  completedWith actions actionIDs fun action => action.kind = .acknowledge &&
    action.result.runtimeWorkIDs = [runtimeChildID] && action.requestDigest = expectedDigest &&
    action.result.resultDigest = expectedDigest && action.result.messageReceipt ≠ ""

def completedCallback (actionIDs : List String) (runtimeChildID expectedDigest : String) : Bool :=
  completedWith actions actionIDs fun action => action.kind = .callback &&
    action.requestDigest = expectedDigest && action.result.resultDigest = expectedDigest &&
    action.result.runtimeWorkIDs = [runtimeChildID]

def completedClose (actionIDs : List String) (expected : CloseEvidence) : Bool :=
  completedWith actions actionIDs fun action => action.kind = .close &&
    controlCloseEvidence action.result.closeEvidence = .ok expected

end

def validPromotedAttempt (snapshot : Snapshot) (attempt : PlacementAttempt) : Bool :=
  attempt.promotedFromAttemptID ≠ "" && attempt.handoffID ≠ "" && attempt.primitive = .persistentSession &&
    (snapshot.attempts.get? attempt.promotedFromAttemptID).any fun source =>
      source.taskID = attempt.taskID && source.primitive = .ephemeralSubagent &&
      attemptTerminal source.state && source.terminalEvidence.id ≠ "" &&
      source.closeEvidence.kind = some .runtimeClose && source.closeEvidence.receipt ≠ "" &&
      source.disposition.kind = some .handedOff && source.lifecycleOwner ≠ attempt.lifecycleOwner &&
      (snapshot.handoffs.get? attempt.handoffID).any fun handoff =>
        handoff.producerTaskID = attempt.taskID && handoff.consumerTaskID = attempt.taskID &&
        handoff.fromOwner = source.lifecycleOwner && handoff.toOwner = attempt.lifecycleOwner &&
        handoff.evidence = source.terminalEvidence && handoff.acknowledgementRequired

def validateEvidence (evidence : Evidence) (snapshot : Snapshot) : Except Error Unit := do
  require (evidence.id ≠ "" ∧
    (∃ attempt ∈ snapshot.attempts.get? evidence.attemptID, attempt.taskID = evidence.taskID) ∧
    validGitSHA evidence.baseSHA ∧ validGitSHA evidence.headSHA ∧
    (evidence.pushedSHA ≠ "" → validGitSHA evidence.pushedSHA) ∧
    validDigest evidence.ownedPathsDigest ∧ evidence.tests ≠ []) .invalidRecord
  require (∃ task ∈ taskByID snapshot.graph evidence.taskID,
    ∃ project ∈ task.projects, project.baseSHA = evidence.baseSHA) .invalidRecord
  require (∀ test ∈ evidence.tests, validDigest test.commandDigest ∧ validDigest test.resultDigest)
    .invalidRecord

def Snapshot.holdsEvidence (snapshot : Snapshot) (id : String) (p : Evidence → Bool) : Bool :=
  (snapshot.evidence.get? id).any fun evidence => evidence.id ≠ "" && p evidence

def validateAttempt (snapshot : Snapshot) (id : String) (attempt : PlacementAttempt) : Except Error Unit :=
  require (id ≠ "" ∧ attempt.id = id ∧ (taskByID snapshot.graph attempt.taskID).isSome ∧
    attempt.lifecycleOwner ≠ "" ∧ attempt.capabilitySnapshot.validate = .ok () ∧
    (attempt.state = .blocked ↔ attempt.blockCode ≠ "") ∧
    (attempt.capabilitySnapshot.primitives.get? attempt.primitive).isSome ∧
    ∀ requirement ∈ requiredCapabilities attempt.primitive,
      attempt.capabilitySnapshot.supports attempt.primitive requirement) .invalidRecord

def liveTasks (attempts : Table PlacementAttempt) : List String :=
  (attempts.values.filter fun attempt => !attemptTerminal attempt.state).map (·.taskID)

def validateSession (snapshot : Snapshot) (id : String) (session : AgentSession) : Except Error Unit :=
  require (id ≠ "" ∧ session.id = id ∧ session.runtimeChildID ≠ "" ∧ session.harnessID ≠ "" ∧
    ∃ attempt ∈ snapshot.attempts.get? session.attemptID, attempt.primitive = .persistentSession ∧
      (session.runtimeIDAcknowledged →
        let expected := registrationMessageDigest snapshot.run.id session.attemptID session.runtimeChildID
        session.registrationMessageDigest = expected ∧
        completedAcknowledgement snapshot.actions attempt.actionIDs session.runtimeChildID expected))
    .invalidRecord

def validateAttemptReferences (snapshot : Snapshot) (attempt : PlacementAttempt) : Except Error Unit := do
  require (attempt.terminalEvidence.id ≠ "" → snapshot.holdsEvidence attempt.terminalEvidence.id fun evidence =>
      evidence.attemptID = attempt.id && evidence.taskID = attempt.taskID &&
      attempt.terminalEvidence.digest = evidenceDigest evidence) .invalidRecord
  require (attempt.disposition.kind ≠ none → validDisposition attempt.disposition ∧
    snapshot.holdsEvidence attempt.disposition.evidenceID (·.attemptID = attempt.id)) .invalidRecord
  if attempt.closeEvidence.kind ≠ none then
    validateCloseEvidence attempt.primitive attempt.closeEvidence
  require (attempt.closeEvidence.kind ≠ none → attempt.primitive ≠ .localSequential →
    completedClose snapshot.actions attempt.actionIDs attempt.closeEvidence) .invalidRecord
  require (attempt.promotedFromAttemptID ≠ "" ∨ attempt.handoffID ≠ "" →
    validPromotedAttempt snapshot attempt) .invalidRecord

def validateSessionDisposition (snapshot : Snapshot) (session : AgentSession) : Except Error Unit :=
  require (session.disposition.kind ≠ none → validDisposition session.disposition ∧
    snapshot.holdsEvidence session.disposition.evidenceID (·.attemptID = session.attemptID))
    .invalidRecord

def validateHandoff (snapshot : Snapshot) (id : String) (handoff : Handoff) : Except Error Unit :=
  require (handoff.id = id ∧ (taskByID snapshot.graph handoff.producerTaskID).isSome ∧
    (taskByID snapshot.graph handoff.consumerTaskID).isSome ∧
    snapshot.holdsEvidence handoff.evidence.id (handoff.evidence.digest = evidenceDigest ·))
    .invalidRecord

def nextCursor (controlRunID : String) (cursor : Nat) (event : Event) : Except Error Nat := do
  require (event.controlRunID = controlRunID ∧ event.cursor = cursor + 1 ∧ validDigest event.digest)
    .invalidRecord
  return event.cursor

/-- `expectedRuntimeIDs` and the result check of a completed action. -/
def validateCompleted (action : LifecycleAction) (attempt : PlacementAttempt) : Except HarnessError Unit :=
  validateActionResult action.kind attempt.primitive
    (if action.kind = .dispatch then [] else attempt.runtimeWorkIDs) 0
    (attempt.capabilitySnapshot.supports attempt.primitive .cursor) action.result

def validateLifecycleAction (snapshot : Snapshot) (id : String) (action : LifecycleAction) : Except Error Unit :=
  require (action.id = id ∧ action.requestDigest ≠ "" ∧ (action.completed → action.result.actionID = action.id) ∧
    ¬ (action.completed ∧ action.ambiguous) ∧ (action.ambiguous ↔ action.ambiguityCode ≠ "") ∧
    ∃ attempt ∈ snapshot.attempts.get? action.attemptID, attempt.id ≠ "" ∧
      (action.completed → validateCompleted action attempt = .ok ())) .invalidRecord

def validateMessage (snapshot : Snapshot) (id : String) (message : Message) : Except Error Unit :=
  require (message.id = id ∧ validDigest message.digest ∧
    messageScopeAllowed snapshot.graph message.fromTaskID message.toTaskID) .invalidRecord

def validateStoredCallback (snapshot : Snapshot) (attemptID : String) (callback : CompletionCallback) :
    Except Error Unit :=
  require (callback.attemptID = attemptID ∧ validCallback callback ∧
    ∃ attempt ∈ snapshot.attempts.get? attemptID, attempt.primitive = .persistentSession ∧
      completedCallback snapshot.actions attempt.actionIDs callback.runtimeChildID
        (completionCallbackDigest callback)) .invalidRecord

def validateSnapshot (snapshot : Snapshot) : Except Error Unit := do
  require (snapshot.schemaVersion = schemaVersion ∧ snapshot.version ≠ 0) .invalidRecord
  require (snapshot.run.schemaVersion = schemaVersion ∧ snapshot.graph.schemaVersion = schemaVersion ∧
    snapshot.run.id ≠ "" ∧ snapshot.run.id = snapshot.graph.controlRunID ∧
    snapshot.run.principalID ≠ "" ∧ validDigest snapshot.run.goalDigest ∧
    snapshot.run.graphRevision = snapshot.graph.revision) .invalidRecord
  validateGraph snapshot.graph none
  snapshot.attempts.entries.forM fun entry => validateAttempt snapshot entry.1 entry.2
  require (liveTasks snapshot.attempts).Nodup .invalidRecord
  snapshot.sessions.entries.forM fun entry => validateSession snapshot entry.1 entry.2
  snapshot.evidence.entries.forM fun entry => do
    require (entry.2.id = entry.1) .invalidRecord
    validateEvidence entry.2 snapshot
  snapshot.attempts.entries.forM fun entry => validateAttemptReferences snapshot entry.2
  snapshot.sessions.entries.forM fun entry => validateSessionDisposition snapshot entry.2
  snapshot.handoffs.entries.forM fun entry => validateHandoff snapshot entry.1 entry.2
  let cursor ← snapshot.events.foldlM (nextCursor snapshot.run.id) 0
  require (snapshot.run.eventCursor = cursor) .invalidRecord
  snapshot.actions.entries.forM fun entry => validateLifecycleAction snapshot entry.1 entry.2
  snapshot.messages.entries.forM fun entry => validateMessage snapshot entry.1 entry.2
  snapshot.callbacks.entries.forM fun entry => validateStoredCallback snapshot entry.1 entry.2

/-- `reflect.DeepEqual` of two snapshots: the tables as maps. -/
def Snapshot.same (one two : Snapshot) : Prop :=
  one.schemaVersion = two.schemaVersion ∧ one.version = two.version ∧ one.run = two.run ∧
  one.graph = two.graph ∧ one.attempts.entries.Perm two.attempts.entries ∧
  one.sessions.entries.Perm two.sessions.entries ∧ one.evidence.entries.Perm two.evidence.entries ∧
  one.handoffs.entries.Perm two.handoffs.entries ∧ one.messages.entries.Perm two.messages.entries ∧
  one.callbacks.entries.Perm two.callbacks.entries ∧ one.actions.entries.Perm two.actions.entries ∧
  one.events = two.events

instance (one two : Snapshot) : Decidable (one.same two) := inferInstanceAs (Decidable (_ ∧ _))

def terminalOutcomes (current next : Snapshot) : Nat :=
  next.actions.entries.countP fun entry =>
    let previous := current.actions.get? entry.1
    (!previous.any (·.completed) && entry.2.completed) || (!previous.any (·.ambiguous) && entry.2.ambiguous)

def sameActionIdentity (action next : LifecycleAction) : Prop :=
  action.id = next.id ∧ action.attemptID = next.attemptID ∧ action.kind = next.kind ∧
  action.requestDigest = next.requestDigest ∧ action.preparedAt = next.preparedAt

instance (action next : LifecycleAction) : Decidable (sameActionIdentity action next) :=
  inferInstanceAs (Decidable (_ ∧ _))

def validateAttemptSave (attempt next : PlacementAttempt) : Except Error Unit := do
  require (attempt.disposition.kind ≠ none → attempt.disposition = next.disposition) .evidenceImmutable
  require (attempt.terminalEvidence.id ≠ "" → attempt.terminalEvidence = next.terminalEvidence)
    .evidenceImmutable
  require (attempt.closeEvidence.kind ≠ none → attempt.closeEvidence = next.closeEvidence)
    .immutableBoundary

def validateAttemptStays (next : Snapshot) (id : String) (attempt : PlacementAttempt) : Except Error Unit :=
  match next.attempts.get? id with
  | none => .error .immutableBoundary
  | some nextAttempt => validateAttemptSave attempt nextAttempt

/-- Exactly one new attempt of the task is a promotion, and all of them are sound. -/
def validPromotionSave (current next : Snapshot) (oldTask nextTask : Task) : Bool :=
  let promoted := next.attempts.entries.filter fun entry =>
    (current.attempts.get? entry.1).isNone && entry.2.taskID = oldTask.id && entry.2.promotedFromAttemptID ≠ ""
  nextTask.state = .dispatched && nextTask.placement.parallelismPrimitive = .persistentSession &&
    promoted.all (fun entry =>
      (current.attempts.get? entry.2.promotedFromAttemptID).any (·.taskID = oldTask.id) &&
      validPromotedAttempt next entry.2 &&
      entry.2.lifecycleOwner = nextTask.placement.lifecycleOwner) &&
    promoted.length = 1

def validateTaskSave (current next : Snapshot) (task : Task) : Except Error Unit :=
  require (taskBoundaryActive task.state → ∃ nextTask ∈ taskByID next.graph task.id, sameBoundary task nextTask ∧
    ((task.ownership = nextTask.ownership ∧ task.placement = nextTask.placement) ∨
      validPromotionSave current next task nextTask)) .immutableBoundary

def validateSave (current next : Snapshot) : Except Error Unit := do
  validateSnapshot current
  validateSnapshot next
  require (next.version = current.version + 1 ∧ current.schemaVersion = next.schemaVersion ∧
    current.run.schemaVersion = next.run.schemaVersion ∧ current.run.id = next.run.id ∧
    current.run.principalID = next.run.principalID ∧ current.run.goalDigest = next.run.goalDigest ∧
    current.run.createdAt = next.run.createdAt) .immutableBoundary
  require (terminalOutcomes current next ≤ 1) .invalidRecord
  require (current.graph.revision ≤ next.graph.revision ∧
    next.graph.revision ≤ current.graph.revision + 1) .versionConflict
  require (next.events.take current.events.length = current.events) .immutableBoundary
  require (current.run.status = .closed → current.same { next with version := current.version })
    .immutableBoundary
  require (∀ entry ∈ current.evidence.entries, next.evidence.get? entry.1 = some entry.2)
    .evidenceImmutable
  require (∀ entry ∈ current.actions.entries, ∃ nextAction ∈ next.actions.get? entry.1,
    sameActionIdentity entry.2 nextAction ∧ (entry.2.completed → entry.2 = nextAction)) .immutableBoundary
  current.attempts.entries.forM fun entry => validateAttemptStays next entry.1 entry.2
  current.graph.tasks.forM (validateTaskSave current next)

def pendingWork (snapshot : Snapshot) : PendingWorkGate :=
  let attempts := snapshot.attempts.values
  let persistentSessionsUnarchived := attempts.countP fun attempt =>
    attempt.primitive = .persistentSession && !snapshot.sessions.values.any fun session =>
      session.attemptID = attempt.id && session.archiveReceipt ≠ ""
  let unclosed (primitive : Primitive) := attempts.countP fun attempt =>
    attempt.primitive = primitive &&
      (!closesPrimitive primitive attempt.closeEvidence.kind || attempt.closeEvidence.receipt = "")
  { persistentSessionsUnarchived
    ephemeralAttemptsOpen := unclosed .ephemeralSubagent
    nativeFanoutsUnaggregated := unclosed .harnessNativeParallel
    localAttemptsActive := unclosed .localSequential
    totalPendingWork := persistentSessionsUnarchived + unclosed .ephemeralSubagent +
      unclosed .harnessNativeParallel + unclosed .localSequential }

def closeSnapshot (snapshot : Snapshot) (now : Time) : Except Error Snapshot := do
  validateSnapshot snapshot
  require (pendingWork snapshot = {}) .cleanupIncomplete
  require (∀ task ∈ snapshot.graph.tasks, taskTerminal task.state ∧
    ∃ attempt ∈ snapshot.attempts.values, attempt.taskID = task.id) .closePrecondition
  require (∀ attempt ∈ snapshot.attempts.values, attemptTerminal attempt.state ∧
    validDisposition attempt.disposition ∧ attempt.terminalEvidence.id ≠ "") .closePrecondition
  require (∀ session ∈ snapshot.sessions.values, validDisposition session.disposition ∧
    session.archiveReceipt ≠ "") .cleanupIncomplete
  require (∀ handoff ∈ snapshot.handoffs.values, handoff.acknowledgementRequired →
    handoff.acknowledged) .closePrecondition
  require (∀ gate ∈ snapshot.graph.combinedGates, gate.passed) .closePrecondition
  return { snapshot with
    run := { snapshot.run with
      status := .closed
      close := { code := "closed", combinedGatesPassed := true, closedAt := now }
      updatedAt := now } }

def normalizedPromotionTrigger (trigger : String) : String :=
  if blank trigger then promotionTriggerNone else trigger

/-- `normalizePromotionTriggers` on the graph. -/
def normalizeGraph (graph : TaskGraph) : TaskGraph :=
  { graph with tasks := graph.tasks.map fun task => { task with
      placement := { task.placement with
        promotionTrigger := normalizedPromotionTrigger task.placement.promotionTrigger } } }

def newSnapshot (run : ControlRun) (graph : TaskGraph) : Except Error Snapshot := do
  let run := if run.schemaVersion = "" then { run with schemaVersion } else run
  let graph := if graph.schemaVersion = "" then { graph with schemaVersion } else graph
  let snapshot : Snapshot := { version := 1, run, graph := normalizeGraph graph }
  validateSnapshot snapshot
  return snapshot

end Paje.Control
