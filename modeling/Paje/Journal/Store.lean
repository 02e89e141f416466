import Paje.Journal.Document
import Paje.Lib.Paging

/-!
`MemoryStore`, the reference journal: reservations, appended events, and the atomic commit under a
compare-and-swap on the run's and the journal's heads.
-/

namespace Paje.Journal

open Text

variable [sha : Sha]

structure CommitRequest where
  action : Action
  expectedRun : RunCursor
  expectedGlobal : GlobalCursor
  requestPayload : Document
  outcome : Event
  outcomePayload : Document
  deriving DecidableEq

structure MemoryCommit where
  receipt : CommitReceipt
  (requestPayload outcomePayload : Document)
  deriving DecidableEq

structure MemoryStore where
  installationID : String
  actions : Table Action := ∅
  actionRuns : Table String := ∅
  idempotency : Table Action := ∅
  events : List Event := []
  eventByID : Table Event := ∅
  runEvents : Table (List Event) := ∅
  commits : Table MemoryCommit := ∅
  commitKeys : Table String := ∅
  payloads : Table Document := ∅
  deriving DecidableEq

def newGlobalCursor (installationID : String) : GlobalCursor := ⟨installationID, schemaVersion, 0⟩

/-- The zero `GlobalCursor`. -/
def GlobalCursor.zero : GlobalCursor := ⟨"", 0, 0⟩

def newRunCursor (installationID controlRunID : String) : RunCursor :=
  ⟨installationID, controlRunID, schemaVersion, 0⟩

def newMemoryStore (installationID : String) : Except Error MemoryStore := do
  require (¬ blank installationID) .invalidRecord
  return { installationID }

def validatePayload (encoded : Document) (wantDigest : String) : Except Error Unit := do
  require (Sha.size encoded ≠ 0 ∧ Sha.size encoded ≤ maxPayloadBytes ∧ validDigest wantDigest)
    .invalidRecord
  require (digest encoded = wantDigest) .invalidRecord

def validateCommitRequest (request : CommitRequest) : Except Error Unit := do
  validateAction request.action
  require (¬ blank request.expectedRun.installationID ∧ request.expectedRun.installationID.utf8ByteSize ≤ 128 ∧
    request.expectedGlobal.installationID.utf8ByteSize ≤ 128 ∧
    request.expectedRun.installationID = request.expectedGlobal.installationID ∧
    request.expectedRun.controlRunID = request.action.controlRunID ∧
    request.expectedRun.schemaVersion = schemaVersion ∧
    request.expectedGlobal.schemaVersion = schemaVersion) .invalidRecord
  require (request.outcome.controlRunID = request.action.controlRunID ∧
    request.outcome.actionID = request.action.id) .invalidRecord
  validateEvent request.outcome false
  require (request.outcome.kind = .actionResult ∨ request.outcome.kind = .actionNotPerformed ∨
    request.outcome.kind = .actionAmbiguous) .invalidRecord
  validatePayload request.requestPayload request.action.canonicalRequestDigest
  validatePayload request.outcomePayload request.outcome.payloadDigest

namespace MemoryStore

def runOf (store : MemoryStore) (controlRunID : String) : List Event :=
  (store.runEvents.get? controlRunID).getD []

def payload (store : MemoryStore) (wanted : String) : Except Error Document := do
  require (validDigest wanted) .invalidRecord
  match store.payloads.get? wanted with
  | none => .error .notFound
  | some document => .ok document

def reservationsOf (store : MemoryStore) (controlRunID actionID : String) : List Event :=
  (store.runOf controlRunID).filter fun event =>
    event.actionID = actionID ∧ (event.kind = .actionReserved ∨ event.kind = .migrationAction)

def reservation (store : MemoryStore) (controlRunID actionID : String) : Except Error Action := do
  require (¬ blank controlRunID ∧ ¬ blank actionID) .notFound
  match store.actions.get? actionID with
  | none => .error .notFound
  | some existing =>
    require (existing.controlRunID = controlRunID ∧ (store.actionRuns.get? actionID).getD "" = controlRunID ∧
      store.idempotency.get? existing.idempotencyKey = some existing) .notFound
    require (∀ event ∈ store.reservationsOf controlRunID actionID,
      event.kind = .actionReserved → event.payloadDigest = digest (.action existing)) .conflict
    require ((store.reservationsOf controlRunID actionID).length = 1) .conflict
    return existing

def pageLimit (limit : Nat) : Nat :=
  if limit = 0 then 100 else if limit > 1000 then 1000 else limit

def feed (store : MemoryStore) (cursor : GlobalCursor) (limit : Nat) : Except Error (List Event × GlobalCursor) := do
  let cursor := if cursor = GlobalCursor.zero then newGlobalCursor store.installationID else cursor
  require (cursor.installationID = store.installationID ∧ cursor.schemaVersion = schemaVersion ∧
    cursor.journalPosition ≤ store.events.length) .cursor
  let result := (store.events.drop cursor.journalPosition).take (pageLimit limit)
  let position := (result.getLast?.map Event.journalPosition).getD cursor.journalPosition
  return (result, { cursor with journalPosition := position })

def readRun (store : MemoryStore) (cursor : RunCursor) (limit : Nat) : Except Error (List Event × RunCursor) := do
  let cursor := if cursor.installationID = "" ∧ cursor.schemaVersion = 0 ∧ cursor.runSequence = 0
    then newRunCursor store.installationID cursor.controlRunID else cursor
  let events := store.runOf cursor.controlRunID
  require (cursor.installationID = store.installationID ∧ cursor.schemaVersion = schemaVersion ∧
    ¬ blank cursor.controlRunID ∧ cursor.runSequence ≤ events.length) .cursor
  let result := (events.drop cursor.runSequence).take (pageLimit limit)
  let sequence := (result.getLast?.map Event.runSequence).getD cursor.runSequence
  return (result, { cursor with runSequence := sequence })

def reserved (action : Action) : Event where
  id := stableID "reservation" [action.controlRunID, action.id]
  controlRunID := action.controlRunID
  actionID := action.id
  kind := .actionReserved
  payloadDigest := digest (.action action)
  occurredAt := Time.unixEpoch

section

variable (store : MemoryStore)

/-- `event` at the `offset`-th position after the heads. -/
def placed (event : Event) (offset : Nat) : Event :=
  { event with
    runSequence := (store.runOf event.controlRunID).length + offset
    journalPosition := store.events.length + offset }

def push (event : Event) : MemoryStore :=
  { store with
    events := store.events ++ [event]
    runEvents := store.runEvents.put event.controlRunID (store.runOf event.controlRunID ++ [event])
    eventByID := store.eventByID.put event.id event }

/-- `appendLocked`. -/
def append (controlRunID : String) (expectedRunSequence : Nat) (event : Event) :
    Except Error (Event × MemoryStore) := do
  require (event.controlRunID = controlRunID) .conflict
  match store.eventByID.get? event.id with
  | some existing =>
    require ({ existing with runSequence := 0, journalPosition := 0 } = event ∧ existing.runSequence ≠ 0) .conflict
    return (existing, store)
  | none =>
    validateEvent event false
    require (expectedRunSequence = (store.runOf controlRunID).length) .conflict
    if event.actionID ≠ "" then
      match store.actions.get? event.actionID with
      | none => .error .conflict
      | some action =>
        require (action.controlRunID = controlRunID ∧
          (store.actionRuns.get? event.actionID).getD "" = controlRunID) .conflict
        validateOutcomeTransition store.events event
    let assigned := store.placed event 1
    validateEvent assigned true
    return (assigned, store.push assigned)

/-- `reserveLocked`. -/
def reserve (action : Action) : Except Error (Action × Bool × MemoryStore) := do
  match store.idempotency.get? action.idempotencyKey, store.actions.get? action.id with
  | some existing, _ =>
    require (existing = action) .conflict
    return (existing, false, store)
  | none, some existing =>
    require (existing = action) .conflict
    return (existing, false, store)
  | none, none =>
    let run := (store.actionRuns.get? action.id).getD ""
    require (run ≠ "" → run = action.controlRunID) .conflict
    let claimed := { store with
      actions := store.actions.put action.id action
      actionRuns := store.actionRuns.put action.id action.controlRunID
      idempotency := store.idempotency.put action.idempotencyKey action }
    let (_, after) ← claimed.append action.controlRunID (claimed.runOf action.controlRunID).length
      (reserved action)
    return (action, true, after)

/-- `Reserve`. -/
def reserveAction (action : Action) : Except Error (Action × Bool × MemoryStore) := do
  validateAction action
  store.reserve action

/-- The checks of `ReserveAndAppend` before its first write. -/
def checkReserveAndAppend (action : Action) (event : Event) : Except Error Unit := do
  validateAction action
  require (event.controlRunID = action.controlRunID ∧ event.actionID = "" ∧ event.kind = .projectionUpdated) .conflict
  validateEvent event false
  match store.eventByID.get? event.id with
  | some existing =>
    require ((store.actions.get? action.id).isSome ∧
      { existing with runSequence := 0, journalPosition := 0 } = event) .conflict
  | none => pure ()

/-- `ReserveAndAppend`: the reservation and its projection event in one transaction. -/
def reserveAndAppend (action : Action) (event : Event) :
    Except Error (Action × Bool × Event × MemoryStore) := do
  store.checkReserveAndAppend action event
  let (kept, created, after) ← store.reserve action
  let (appended, after) ← after.append action.controlRunID (after.runOf action.controlRunID).length event
  return (kept, created, appended, after)

def commitByID (request : CommitRequest) : Except Error (Option MemoryCommit) := do
  match store.commits.get? request.action.id with
  | none => return none
  | some existing =>
    require (validateCommitRequest request = .ok () ∧ existing.receipt.action = request.action ∧
      existing.requestPayload = request.requestPayload ∧
      existing.outcomePayload = request.outcomePayload) .conflict
    require ({ existing.receipt.outcome with runSequence := 0, journalPosition := 0 } = request.outcome) .conflict
    require (request.expectedRun.installationID = store.installationID ∧
      request.expectedGlobal.installationID = store.installationID) .conflict
    return some existing

/-- `exactCommitLocked`. -/
def exactCommit (request : CommitRequest) : Except Error (Option MemoryCommit) := do
  match store.commitKeys.get? request.action.idempotencyKey with
  | some keyed =>
    require ((store.commits.get? request.action.id).isSome ∧ keyed = request.action.id) .conflict
  | none => pure ()
  store.commitByID request

def receiptOf (request : CommitRequest) : CommitReceipt where
  action := request.action
  reservation := store.placed (reserved request.action) 1
  outcome := { request.outcome with
    runSequence := (store.runOf request.action.controlRunID).length + 2
    journalPosition := store.events.length + 2 }
  created := true

def committed (request : CommitRequest) : MemoryStore :=
  let receipt := store.receiptOf request
  let action := request.action
  let pushed := (store.push receipt.reservation).push receipt.outcome
  { pushed with
    actions := store.actions.put action.id action
    actionRuns := store.actionRuns.put action.id action.controlRunID
    idempotency := store.idempotency.put action.idempotencyKey action
    commits := store.commits.put action.id
      ⟨receipt, request.requestPayload, request.outcomePayload⟩
    commitKeys := store.commitKeys.put action.idempotencyKey action.id
    payloads := (store.payloads.put action.canonicalRequestDigest request.requestPayload).put
      request.outcome.payloadDigest request.outcomePayload }

/-- A payload already stored under `wanted` is `document`. -/
def storesOnly (wanted : String) (document : Document) : Prop :=
  ∀ existing ∈ store.payloads.get? wanted, existing = document

instance (store : MemoryStore) (wanted : String) (document : Document) :
    Decidable (store.storesOnly wanted document) :=
  inferInstanceAs (Decidable (∀ existing ∈ store.payloads.get? wanted, existing = document))

def commit (request : CommitRequest) : Except Error (CommitReceipt × MemoryStore) := do
  validateAction request.action
  -- `canonicalEvent` encodes the outcome and decodes it again
  require request.outcome.occurredAt.Encodable .invalidRecord
  match ← store.exactCommit request with
  | some existing => return ({ existing.receipt with created := false }, store)
  | none =>
    require (store.actions.get? request.action.id = none) .conflict
    require (store.idempotency.get? request.action.idempotencyKey = none) .conflict
    validateCommitRequest request
    let run := store.runOf request.action.controlRunID
    require (request.expectedRun.installationID = store.installationID ∧
      request.expectedGlobal.installationID = store.installationID ∧
      request.expectedRun.runSequence = run.length ∧
      request.expectedGlobal.journalPosition = store.events.length) .conflict
    require (run.length ≤ maxUint64 - 2 ∧ store.events.length ≤ maxUint64 - 2) .conflict
    let receipt := store.receiptOf request
    validateEvent receipt.reservation true
    validateEvent receipt.outcome true
    require (receipt.reservation.id ≠ receipt.outcome.id) .conflict
    require (store.eventByID.get? receipt.reservation.id = none ∧
      store.eventByID.get? receipt.outcome.id = none) .conflict
    validateOutcomeTransition store.events request.outcome
    -- one map literal holds both payloads: under one digest only the outcome's is compared
    require ((request.action.canonicalRequestDigest ≠ request.outcome.payloadDigest →
      store.storesOnly request.action.canonicalRequestDigest request.requestPayload) ∧
      store.storesOnly request.outcome.payloadDigest request.outcomePayload) .conflict
    return (receipt, store.committed request)

end

end MemoryStore

end Paje.Journal
