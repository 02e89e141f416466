import Paje.Control.Service
import Paje.Journal.Writes

/-!
The store of snapshots, each with its event in the journal. A save of any version but the stored one
is refused, so a call takes effect at once or not at all.
-/

namespace Paje.Control

open Text Journal

variable [sha : Sha]

structure Store where
  records : Table Snapshot := ∅
  journal : MemoryStore

/-- `%020d`. -/
def padded (version : Nat) : String :=
  let digits := toString version
  String.ofList (List.replicate (20 - digits.length) '0') ++ digits

def projectionEvent (next : Snapshot) (kind : Journal.EventKind) (actionID : String) : Journal.Event where
  id := "snapshot_" ++ next.run.id ++ "_" ++ padded next.version
  controlRunID := next.run.id
  actionID
  kind
  payloadDigest := digest (.controlSnapshot next)
  occurredAt := if next.run.updatedAt.IsZero then Time.unixEpoch else next.run.updatedAt

def outcomeBinding (current next : Snapshot) : Journal.EventKind × String :=
  next.actions.entries.foldl (fun (found : Journal.EventKind × String) entry =>
    match current.actions.get? entry.1 with
    | none => found
    | some previous =>
      if !previous.completed && entry.2.completed then (.actionResult, entry.1)
      else if !previous.ambiguous && entry.2.ambiguous then (.actionAmbiguous, entry.1)
      else found) (.projectionUpdated, "")

/-- `expected` of `ValidateActionReservation`: the current snapshot with the prepared action, its
attempt and its event. -/
def withPrepared (current next : Snapshot) (prepared : LifecycleAction) (attempt : PlacementAttempt)
    (preparedEvent : Event) : Snapshot :=
  { current with
    version := next.version
    run := { current.run with
      updatedAt := next.run.updatedAt
      eventCursor := next.run.eventCursor }
    actions := current.actions.put prepared.id prepared
    attempts := current.attempts.put attempt.id attempt
    events := current.events ++ [preparedEvent] }

def validateActionReservation (current next : Snapshot) (reservation : Action) : Except Error Unit := do
  validateSave current next
  relabel .journal (validateAction reservation)
  require (reservation.controlRunID = current.run.id ∧ reservation.expectedProjection = current.version ∧
    reservation.graphRevision = current.graph.revision.toNat ∧
    (current.actions.get? reservation.id).isNone ∧
    (next.actions.entries.filter fun entry => (current.actions.get? entry.1).isNone).map (·.1) =
      [reservation.id]) (.journal .conflict)
  match next.actions.get? reservation.id, current.attempts.get? reservation.attemptID,
    next.attempts.get? reservation.attemptID, next.events.getLast? with
  | some prepared, some previousAttempt, some attempt, some preparedEvent =>
    require (prepared.id = reservation.id ∧ prepared.attemptID = reservation.attemptID ∧
      journalActionKind prepared.kind = reservation.kind ∧
      prepared.requestDigest = reservation.canonicalRequestDigest ∧ ¬ prepared.preparedAt.IsZero ∧
      ¬ prepared.completed ∧ ¬ prepared.ambiguous) (.journal .conflict)
    require (reservation.id ∉ previousAttempt.actionIDs ∧ attempt.taskID = reservation.taskID ∧
      attempt.actionIDs.length = previousAttempt.actionIDs.length + 1 ∧
      attempt.actionIDs.getLast? = some reservation.id ∧
      previousAttempt = { attempt with actionIDs := attempt.actionIDs.dropLast }) (.journal .conflict)
    require (reservation.idempotencyKey = journalIdempotencyKey reservation.controlRunID
      reservation.attemptID prepared.kind reservation.id) (.journal .conflict)
    require (next.events.length = current.events.length + 1 ∧
      preparedEvent.kind = .actionPrepared ∧ preparedEvent.controlRunID = current.run.id ∧
      preparedEvent.cursor = current.run.eventCursor + 1 ∧ preparedEvent.taskID = reservation.taskID ∧
      preparedEvent.attemptID = reservation.attemptID ∧ preparedEvent.actionID = reservation.id ∧
      preparedEvent.digest = digestStrings ["prepare", reservation.id, reservation.canonicalRequestDigest] ∧
      ¬ preparedEvent.createdAt.IsZero ∧ ¬ next.run.updatedAt.IsZero) (.journal .conflict)
    require ((withPrepared current next prepared attempt preparedEvent).same next) (.journal .conflict)
  | _, _, _, _ => .error (.journal .conflict)

def validateOutcomeReservation (next : Snapshot) (priorVersion : Nat) (actionID : String)
    (reservation : Action) : Except Error Unit := do
  relabel .journal (validateAction reservation)
  require (∃ lifecycle ∈ next.actions.get? actionID, ∃ attempt ∈ next.attempts.get? lifecycle.attemptID,
      actionID = lifecycle.id ∧ reservation = {
        id := lifecycle.id, controlRunID := next.run.id, taskID := attempt.taskID
        attemptID := lifecycle.attemptID, kind := journalActionKind lifecycle.kind
        graphRevision := reservation.graphRevision
        expectedProjection := reservation.expectedProjection
        canonicalRequestDigest := lifecycle.requestDigest
        idempotencyKey := reservation.idempotencyKey
        authorityReceiptID := reservation.authorityReceiptID } ∧
      reservation.graphRevision ≤ next.graph.revision.toNat ∧
      reservation.expectedProjection ≤ priorVersion) (.journal .conflict)

namespace Store

section

variable (store : Store)

def load (controlRunID : String) : Except Error Snapshot :=
  match store.records.get? controlRunID with
  | none => .error .notFound
  | some snapshot => .ok snapshot

def put (next : Snapshot) (kind : Journal.EventKind) (actionID : String) : Except Error Store := do
  let (_, journal) ← relabel .journal (store.journal.append next.run.id
    (store.journal.runOf next.run.id).length (projectionEvent next kind actionID))
  return { records := store.records.put next.run.id next, journal }

def create (snapshot : Snapshot) : Except Error Store := do
  validateSnapshot snapshot
  require (store.records.get? snapshot.run.id = none) .alreadyExists
  store.put snapshot .projectionUpdated ""

def checkOutcome (next : Snapshot) (priorVersion : Nat) (actionID : String) : Except Error Unit :=
  if actionID = "" then .ok () else do
    let reservation ← relabel .journal (store.journal.reservation next.run.id actionID)
    validateOutcomeReservation next priorVersion actionID reservation

def save (next : Snapshot) (expectedVersion : Nat) : Except Error (Snapshot × Store) := do
  match store.records.get? next.run.id with
  | none => .error .notFound
  | some current =>
    require (current.version = expectedVersion) .versionConflict
    let next := { next with version := current.version + 1 }
    validateSave current next
    let (kind, actionID) := outcomeBinding current next
    store.checkOutcome next expectedVersion actionID
    let after ← store.put next kind actionID
    return (next, after)

def reserveAction (next : Snapshot) (expectedVersion : Nat) (action : Action) :
    Except Error (Snapshot × Bool × Store) := do
  match store.records.get? next.run.id with
  | none => .error .notFound
  | some current =>
    let next := { next with version := expectedVersion + 1 }
    if current.version ≠ expectedVersion then
      require (current.version = next.version ∧ current.same next) .versionConflict
      relabel .journal (validateAction action)
      let existing ← relabel .journal (store.journal.reservation action.controlRunID action.id)
      require (existing = action) (.journal .conflict)
      return (current, false, store)
    else
      validateActionReservation current next action
      let (_, created, _, journal) ← relabel .journal (store.journal.reserveAndAppend action
        (projectionEvent next .projectionUpdated ""))
      return (next, created, { records := store.records.put next.run.id next, journal })

/-- `mutate`: a change that changes nothing is not saved. -/
def mutate {α : Type} (controlRunID : String)
    (change : Snapshot → Except Error (α × Snapshot)) (now : Time) : Except Error (α × Store) := do
  let current ← store.load controlRunID
  let (result, next) ← change current
  if current.same next then return (result, store)
  else
    let (_, after) ← store.save { next with run := { next.run with updatedAt := now } } current.version
    return (result, after)

def createRun (run : ControlRun) (graph : TaskGraph) (now : Time) : Except Error Store := do
  let run := { run with
    createdAt := if run.createdAt.IsZero then now else run.createdAt
    updatedAt := if run.updatedAt.IsZero then now else run.updatedAt }
  let snapshot ← newSnapshot run graph
  store.create snapshot

/-- `prepareActionTransaction`. -/
def prepare (controlRunID attemptID : String) (kind : ActionKind)
    (requestDigest : String) (preflight : Snapshot → Except Error (Option LifecycleAction))
    (now : Nat → Time) : Except Error (LifecycleAction × Bool × Store) := do
  let current ← store.load controlRunID
  match ← preflight current with
  | some action => return (action, true, store)
  | none =>
    match ← prepareAction current controlRunID attemptID kind requestDigest now with
    | (action, none) => return (action, true, store)
    | (action, some (reservation, next)) =>
      let (saved, created, after) ← store.reserveAction
        { next with run := { next.run with updatedAt := now 2 } } current.version reservation
      require (∃ stored ∈ saved.actions.get? action.id, stored.id = action.id) .invalidRecord
      return (action, !created, after)

/-- `CloseControlRun`; a refused close is recorded and returned as an error. -/
def closeControlRun (controlRunID : String) (now : Nat → Time) :
    Except Error (Snapshot × Option Error × Store) := do
  let current ← store.load controlRunID
  if current.run.status = .closed then return (current, none, store)
  else
    let (next, error) := closeRun current controlRunID now
    let (saved, after) ← store.save next current.version
    return (saved, error, after)

end

end Store

/-- The calls on the snapshot of one run. -/
inductive Change where
  | updateGraph (expectedRevision : UInt64) (graph : TaskGraph)
  | createAttempt (taskID : String) (capabilities : CapabilitySnapshot)
  | promoteAttempt (attemptID : String) (promotion : Promotion) (capabilities : CapabilitySnapshot)
  | completeAction (actionID : String) (result : ActionResult)
  | markAmbiguous (actionID : String)
  | advanceCursor (attemptID cursor : String) (sequence : Nat)
  | acknowledgeRuntimeID (attemptID runtimeChildID : String)
  | recordCallback (callback : CompletionCallback)
  | sendMessage (message : Message)
  | completeSend (attemptID actionID : String) (result : ActionResult) (message : Message)
  | acknowledgeMessage (messageID taskID : String)
  | recordEvidence (evidence : Evidence)
  | setDisposition (attemptID : String) (disposition : Disposition)
  | closeAttempt (attemptID : String) (evidence : CloseEvidence)
  | attachTerminalEvidence (attemptID : String) (reference : EvidenceRef)
  | addHandoff (handoff : Handoff)
  | acknowledgeHandoff (handoffID : String)

def Change.apply (change : Change) (controlRunID : String) (now : Nat → Time) (snapshot : Snapshot) :
    Except Error Snapshot :=
  match change with
  | .updateGraph revision graph => Control.updateGraph snapshot revision graph
  | .createAttempt taskID capabilities =>
    Prod.snd <$> Control.createAttempt snapshot controlRunID taskID capabilities now
  | .promoteAttempt attemptID promotion capabilities =>
    Prod.snd <$> Control.promoteAttempt snapshot controlRunID attemptID promotion capabilities now
  | .completeAction actionID result =>
    Prod.snd <$> Control.completeAction snapshot controlRunID actionID result now
  | .markAmbiguous actionID => Control.markAmbiguous snapshot actionID
  | .advanceCursor attemptID cursor sequence =>
    Prod.snd <$> Control.advanceCursor snapshot attemptID cursor sequence
  | .acknowledgeRuntimeID attemptID runtimeChildID =>
    Prod.snd <$> Control.acknowledgeRuntimeID snapshot controlRunID attemptID runtimeChildID
  | .recordCallback callback => Control.recordCallback snapshot callback now
  | .sendMessage message => Prod.snd <$> Control.sendMessage snapshot message now
  | .completeSend attemptID actionID result message =>
    Prod.snd <$> Control.completeSend snapshot controlRunID attemptID actionID result message now
  | .acknowledgeMessage messageID taskID =>
    Prod.snd <$> Control.acknowledgeMessage snapshot messageID taskID
  | .recordEvidence evidence => Control.recordEvidence snapshot evidence now
  | .setDisposition attemptID disposition =>
    Prod.snd <$> Control.setDisposition snapshot attemptID disposition now
  | .closeAttempt attemptID evidence => Prod.snd <$> Control.closeAttempt snapshot attemptID evidence
  | .attachTerminalEvidence attemptID reference =>
    Prod.snd <$> Control.attachTerminalEvidence snapshot attemptID reference
  | .addHandoff handoff => Control.addHandoff snapshot handoff now
  | .acknowledgeHandoff handoffID => Prod.snd <$> Control.acknowledgeHandoff snapshot handoffID

def Store.change (store : Store) (controlRunID : String) (change : Change) (now : Nat → Time) : Except Error Store :=
  Prod.snd <$> store.mutate controlRunID
    (fun snapshot => (fun next => ((), next)) <$> change.apply controlRunID now snapshot) (now 3)

/-- One call of the service, or a write of another component to the journal that the store embeds. -/
inductive Call where
  | create (run : ControlRun) (graph : TaskGraph)
  | change (controlRunID : String) (change : Change)
  | prepareAction (controlRunID attemptID : String) (kind : ActionKind) (requestDigest : String)
  | prepareObserve (controlRunID attemptID requestDigest afterCursor : String) (afterSequence : Nat)
  | closeControlRun (controlRunID : String)
  | journal (write : Write)

def Store.call (store : Store) (call : Call) (now : Nat → Time) : Store :=
  let outcome : Except Error Store := match call with
    | .create run graph => store.createRun run graph (now 0)
    | .change controlRunID change => store.change controlRunID change now
    | .prepareAction controlRunID attemptID kind requestDigest =>
      (·.2.2) <$> store.prepare controlRunID attemptID kind requestDigest (fun _ => .ok none) now
    | .prepareObserve controlRunID attemptID requestDigest afterCursor afterSequence =>
      (·.2.2) <$> store.prepare controlRunID attemptID .observe requestDigest
        (observePreflight · controlRunID attemptID requestDigest afterCursor afterSequence) now
    | .closeControlRun controlRunID => (·.2.2) <$> store.closeControlRun controlRunID now
    | .journal write => .ok { store with journal := store.journal.write write }
  match outcome with
  | .ok after => after
  | .error _ => store

end Paje.Control
