import Paje.Journal.Types
import Paje.Lib.Table

/-!
Records of the agent control plane. Enumerations have the source's values only; a record with any
other value is refused before it is stored.
-/

namespace Paje.Control

inductive Primitive where
  | persistentSession | ephemeralSubagent | harnessNativeParallel | localSequential
  deriving DecidableEq

def Primitive.name : Primitive → String
  | .persistentSession => "persistent_session"
  | .ephemeralSubagent => "ephemeral_subagent"
  | .harnessNativeParallel => "harness_native_parallel"
  | .localSequential => "local_sequential"

/-- The capability names; a requirement may be any text, `other` is none of them. -/
inductive Capability where
  | dispatch | observe | wait | runtimeIdentity | acknowledge | send | callback | cursor | interrupt
  | idempotency | restart | runtimeClose | archive | deterministicAggregation | isolation | localWork
  | other (name : String)
  deriving DecidableEq

inductive ActionKind where
  | dispatch | observe | send | wait | interrupt | close | acknowledge | callback
  deriving DecidableEq

def ActionKind.name : ActionKind → String
  | .dispatch => "dispatch"
  | .observe => "observe"
  | .send => "send"
  | .wait => "wait"
  | .interrupt => "interrupt"
  | .close => "close"
  | .acknowledge => "acknowledge"
  | .callback => "callback"

inductive CloseKind where
  | archive | runtimeClose | aggregate | cancel | inactive
  deriving DecidableEq

structure PrimitiveCapabilities where
  primitive : Primitive
  /-- The capabilities that the map holds as true. -/
  capabilities : List Capability
  concurrencyLimit : Int := 0
  deriving DecidableEq

/-- `map[Primitive]PrimitiveCapabilities`. -/
structure Primitives where
  persistentSession : Option PrimitiveCapabilities := none
  ephemeralSubagent : Option PrimitiveCapabilities := none
  harnessNativeParallel : Option PrimitiveCapabilities := none
  localSequential : Option PrimitiveCapabilities := none
  deriving DecidableEq

def Primitives.get? (primitives : Primitives) : Primitive → Option PrimitiveCapabilities
  | .persistentSession => primitives.persistentSession
  | .ephemeralSubagent => primitives.ephemeralSubagent
  | .harnessNativeParallel => primitives.harnessNativeParallel
  | .localSequential => primitives.localSequential

structure CapabilitySnapshot where
  harnessID : String
  revision : String := ""
  primitives : Primitives
  deriving DecidableEq

structure WorkEvent where
  id : String
  runtimeWorkID : String := ""
  cursor : String := ""
  cursorSequence : Nat := 0
  (kind resultDigest : String)
  terminal : Bool := false
  deriving DecidableEq

/-- `CloseEvidence` of a result and `WorkCloseEvidence` of an attempt; without a kind it is unset. -/
structure CloseEvidence where
  kind : Option CloseKind := none
  receipt : String := ""
  digest : String := ""
  deriving DecidableEq

structure ActionResult where
  actionID : String := ""
  runtimeWorkIDs : List String := []
  cursor : String := ""
  cursorSequence : Nat := 0
  events : List WorkEvent := []
  resultDigest : String := ""
  messageReceipt : String := ""
  closeEvidence : CloseEvidence := {}
  diagnostic : String := ""
  deriving DecidableEq

def schemaVersion : String := "paje.controlplane/v1"

def parentAddress : String := "parent"

def promotionTriggerNone : String := "none"

inductive Status where
  | opened | closing | closed | blocked | canceled
  deriving DecidableEq

inductive TaskState where
  | pending | ready | dispatched | active | needsInput | completed | failed | canceled
  deriving DecidableEq

inductive AttemptState where
  | reserved | dispatched | active | blocked | completed | failed | canceled
  deriving DecidableEq

inductive SessionState where
  | registered | acknowledged | active | completed | failed | canceled | archived
  deriving DecidableEq

inductive DispositionKind where
  | integrated | handedOff | discarded
  deriving DecidableEq

def DispositionKind.name : DispositionKind → String
  | .integrated => "integrated"
  | .handedOff => "handed_off"
  | .discarded => "discarded"

inductive EventKind where
  | placement | actionPrepared | actionCompleted | steering | handoff | evidence | disposition | close
  deriving DecidableEq

inductive MessageKind where
  | steering | dependencyHandoff | needsInput
  deriving DecidableEq

inductive CallbackStatus where
  | done | doneWithConcerns | blocked | needsInput
  deriving DecidableEq

def CallbackStatus.name : CallbackStatus → String
  | .done => "done"
  | .doneWithConcerns => "done_with_concerns"
  | .blocked => "blocked"
  | .needsInput => "needs_input"

structure PendingWorkGate where
  persistentSessionsUnarchived : Nat := 0
  ephemeralAttemptsOpen : Nat := 0
  nativeFanoutsUnaggregated : Nat := 0
  localAttemptsActive : Nat := 0
  totalPendingWork : Nat := 0
  deriving DecidableEq

structure CloseState where
  code : String := ""
  combinedGatesPassed : Bool := false
  pending : PendingWorkGate := {}
  closedAt : Time := 0
  deriving DecidableEq

structure ControlRun where
  schemaVersion : String := Control.schemaVersion
  (id principalID goalDigest : String)
  graphRevision : UInt64
  status : Status
  eventCursor : Nat := 0
  close : CloseState := {}
  createdAt : Time := 0
  updatedAt : Time := 0
  deriving DecidableEq

structure ProjectRef where
  (id repository baseRef baseSHA workspaceScope credentialScope mailboxNamespace : String)
  evidenceNamespace : String
  deriving DecidableEq

structure Ownership where
  mutable : List String
  parentOwned : List String := []
  forbidden : List String := []
  deriving DecidableEq

structure ExecutionPlacement where
  parallelismPrimitive : Primitive
  (executionPlacement placementRationale : String)
  capabilityRequirements : List Capability
  (lifecycleOwner fallback : String)
  promotionTrigger : String := ""
  deriving DecidableEq

structure FrozenInput where
  (id digest : String)
  deriving DecidableEq

structure Gate where
  (id digest : String)
  passed : Bool := false
  evidence : String := ""
  deriving DecidableEq

structure CommunicationEdge where
  (projectID taskID : String)
  deriving DecidableEq

structure Task where
  (id goal : String)
  dependsOn : List String := []
  projects : List ProjectRef
  ownership : Ownership
  placement : ExecutionPlacement
  frozenInputs : List FrozenInput
  acceptance : List Gate
  communication : List CommunicationEdge := []
  state : TaskState
  deriving DecidableEq

structure TaskGraph where
  schemaVersion : String := Control.schemaVersion
  controlRunID : String
  revision : UInt64
  tasks : List Task
  integrationOrder : List String
  combinedGates : List Gate
  deriving DecidableEq

structure EvidenceRef where
  id : String := ""
  digest : String := ""
  deriving DecidableEq

structure Disposition where
  kind : Option DispositionKind := none
  evidenceID : String := ""
  reason : String := ""
  deriving DecidableEq

structure PlacementAttempt where
  (id taskID : String)
  primitive : Primitive
  capabilitySnapshot : CapabilitySnapshot
  lifecycleOwner : String
  runtimeWorkIDs : List String := []
  lastCursor : String := ""
  cursorSequence : Nat := 0
  terminalObserved : Bool := false
  state : AttemptState
  terminalEvidence : EvidenceRef := {}
  disposition : Disposition := {}
  closeEvidence : CloseEvidence := {}
  actionIDs : List String := []
  observedEvents : Table String := ∅
  blockCode : String := ""
  promotedFromAttemptID : String := ""
  handoffID : String := ""
  promotionTrigger : String
  deriving DecidableEq

structure AgentSession where
  (id attemptID taskID harnessID runtimeChildID : String)
  runtimeIDAcknowledged : Bool := false
  registrationMessageDigest : String := ""
  lastCursor : String := ""
  state : SessionState
  disposition : Disposition := {}
  archiveReceipt : String := ""
  deriving DecidableEq

structure TestEvidence where
  (commandDigest resultDigest : String)
  passed : Bool
  deriving DecidableEq

structure Evidence where
  (id taskID attemptID : String)
  branch : String := ""
  (baseSHA headSHA : String)
  pushedSHA : String := ""
  ownedPathsDigest : String
  artifactRef : String := ""
  reportRef : String := ""
  tests : List TestEvidence
  reviewDigest : String := ""
  deriving DecidableEq

structure Handoff where
  (id producerTaskID consumerTaskID fromOwner toOwner : String)
  evidence : EvidenceRef
  acknowledgementRequired : Bool
  acknowledged : Bool := false
  deriving DecidableEq

structure Message where
  (id fromTaskID toTaskID : String)
  kind : MessageKind
  digest : String
  acknowledged : Bool := false
  deriving DecidableEq

structure CompletionCallback where
  (attemptID runtimeChildID : String)
  status : CallbackStatus
  branch : String := ""
  (baseSHA headSHA : String)
  pushedSHA : String := ""
  (ownedPathsDigest testsDigest : String)
  handoffsDigest : String := ""
  concernsDigest : String := ""
  reportRef : String := ""
  recommendedParentAction : String
  deriving DecidableEq

structure Event where
  cursor : Nat
  controlRunID : String
  kind : EventKind
  taskID : String := ""
  attemptID : String := ""
  actionID : String := ""
  digest : String
  createdAt : Time
  deriving DecidableEq

structure LifecycleAction where
  (id attemptID : String)
  kind : ActionKind
  requestDigest : String
  result : ActionResult := {}
  preparedAt : Time
  completedAt : Time := 0
  completed : Bool := false
  ambiguous : Bool := false
  ambiguityCode : String := ""
  deriving DecidableEq

structure Snapshot where
  schemaVersion : String := Control.schemaVersion
  version : Nat
  run : ControlRun
  graph : TaskGraph
  attempts : Table PlacementAttempt := ∅
  sessions : Table AgentSession := ∅
  evidence : Table Evidence := ∅
  handoffs : Table Handoff := ∅
  messages : Table Message := ∅
  callbacks : Table CompletionCallback := ∅
  actions : Table LifecycleAction := ∅
  events : List Event := []
  deriving DecidableEq

structure SendInput where
  (id fromTaskID toTaskID : String)
  kind : MessageKind
  digest : String
  deriving DecidableEq

inductive HarnessError where
  | invalidRequest | invalidCapabilities | unsupportedOperation | actionMismatch | actionConflict
  | unexpectedRuntimeIdentity | cursorRegression
  deriving DecidableEq

inductive Error where
  | notFound | alreadyExists | versionConflict | invalidRecord | invalidGraph | invalidPlacement
  | ownershipConflict | immutableBoundary | capabilityUnavailable | concurrencyExhausted
  | actionConflict | actionIncomplete | ambiguousDispatch | ambiguousCreate | cursorRegression | evidenceImmutable
  | cleanupIncomplete | closePrecondition
  | harness (error : HarnessError)
  | journal (error : Journal.Error)
  deriving DecidableEq

end Paje.Control
