import Paje.Lib.Outcome
import Paje.Lib.Text

/-!
Records of the control journal and the checks on their fields. Instants are nanoseconds since
Go's zero time, in UTC; counters are natural numbers with the source's overflow guards.
-/

namespace Paje

abbrev Time := Int

namespace Time

/-- `t.IsZero()`. -/
abbrev IsZero (t : Time) : Prop := t = 0

/-- `time.Unix(0, 0).UTC()`. -/
def unixEpoch : Time := 62135596800000000000

/-- What `MarshalJSON` encodes of an instant in UTC: the years 0 to 9999. -/
abbrev Encodable (t : Time) : Prop := -31622400000000000 ≤ t ∧ t < 315537897600000000000

end Time

/-- `^uint64(0)`. -/
def maxUint64 : Nat := 2 ^ 64 - 1

namespace Journal

open Text

def schemaVersion : Nat := 1

def maxPayloadBytes : Nat := 1048576

inductive Error where
  | conflict | invalidRecord | cursor | notFound
  deriving DecidableEq

inductive Kind where
  | dispatch | registerRuntime | send | acknowledge | callback | observe | wait | interrupt | cancel
  | allocateResource | disposeResource | verifyCandidate | runGate | integrate | publish
  | verifyTargetTree | closeRuntime | archiveSession | closeRun
  deriving DecidableEq

inductive EventKind where
  | actionReserved | actionResult | actionNotPerformed | actionSuperseded | actionAmbiguous
  | projectionUpdated | migrationStarted | migrationGraph | migrationAttempt | migrationSession
  | migrationAction | migrationEvidence | migrationMessage | migrationCallback | migrationHandoff
  | migrationClose | migrationSnapshot | migrationCompleted
  deriving DecidableEq

def EventKind.isOutcome : EventKind → Bool
  | .actionResult | .actionNotPerformed | .actionSuperseded | .actionAmbiguous => true
  | _ => false

structure Action where
  (id controlRunID : String)
  taskID : String := ""
  attemptID : String := ""
  kind : Kind
  (graphRevision expectedProjection : Nat)
  (canonicalRequestDigest idempotencyKey : String)
  authorityReceiptID : String := ""
  deriving DecidableEq

structure RunCursor where
  (installationID controlRunID : String)
  (schemaVersion runSequence : Nat)
  deriving DecidableEq

structure GlobalCursor where
  installationID : String
  (schemaVersion journalPosition : Nat)
  deriving DecidableEq

structure Event where
  (id controlRunID : String)
  runSequence : Nat := 0
  journalPosition : Nat := 0
  actionID : String
  kind : EventKind
  payloadDigest : String
  providerReceipt : String := ""
  occurredAt : Time
  deriving DecidableEq

structure CommitReceipt where
  action : Action
  (reservation outcome : Event)
  created : Bool
  deriving DecidableEq

/-- `ValidDigest`: `sha256:` and 64 lower-case hexadecimal digits. -/
def validDigest (value : String) : Bool :=
  beginsWith "sha256:" value && value.utf8ByteSize = "sha256:".utf8ByteSize + 64 &&
    ((bytes value).drop 7).all hexDigit

def validateAction (action : Action) : Except Error Unit := do
  require (¬ blank action.id ∧ ¬ blank action.controlRunID ∧ action.graphRevision ≠ 0 ∧
    validDigest action.canonicalRequestDigest ∧ ¬ blank action.idempotencyKey) .invalidRecord
  require (action.id.utf8ByteSize ≤ 128 ∧ action.controlRunID.utf8ByteSize ≤ 128 ∧
    action.taskID.utf8ByteSize ≤ 128 ∧ action.attemptID.utf8ByteSize ≤ 128 ∧
    action.idempotencyKey.utf8ByteSize ≤ 256 ∧ action.authorityReceiptID.utf8ByteSize ≤ 128)
    .invalidRecord
  require (action.attemptID ≠ "" → action.taskID ≠ "") .invalidRecord

def validateEvent (event : Event) (assigned : Bool) : Except Error Unit := do
  require (¬ blank event.id ∧ ¬ blank event.controlRunID ∧ validDigest event.payloadDigest ∧
    ¬ event.occurredAt.IsZero) .invalidRecord
  require (event.id.utf8ByteSize ≤ 128 ∧ event.controlRunID.utf8ByteSize ≤ 128 ∧
    event.actionID.utf8ByteSize ≤ 128 ∧ event.providerReceipt.utf8ByteSize ≤ 1024) .invalidRecord
  if assigned then
    require (event.runSequence ≠ 0 ∧ event.journalPosition ≠ 0) .invalidRecord
  else
    require (event.runSequence = 0 ∧ event.journalPosition = 0) .invalidRecord
  require (event.kind.isOutcome → ¬ blank event.actionID) .invalidRecord
  require (event.kind = .actionReserved → ¬ blank event.actionID) .invalidRecord

/-- One step of the reservation outcome state machine; the state is the last outcome seen. -/
def outcomeFollows : Option EventKind → EventKind → Bool
  | none, .actionResult | none, .actionNotPerformed | none, .actionAmbiguous => true
  | some .actionAmbiguous, .actionResult | some .actionAmbiguous, .actionNotPerformed => true
  | some .actionNotPerformed, .actionSuperseded => true
  | _, _ => false

/-- `ValidateOutcomeTransition`: ambiguity may resolve, and only a not-performed action may be
superseded. -/
def validateOutcomeTransition (prior : List Event) (next : Event) : Except Error Unit := do
  if next.kind.isOutcome then
    let state ← prior.foldlM (fun (state : Option EventKind) event =>
      if event.actionID = next.actionID ∧ event.kind.isOutcome then
        if outcomeFollows state event.kind then .ok (some event.kind) else .error .invalidRecord
      else .ok state) none
    require (outcomeFollows state next.kind) .conflict
  else
    pure ()

end Journal

end Paje
