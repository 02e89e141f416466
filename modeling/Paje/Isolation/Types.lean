import Paje.Journal.Types

/-!
Scopes, phases, gates and envelopes of the isolation component. A phase or gate state that the
source may leave empty is an `Option`; an envelope carries exactly one delta.
-/

namespace Paje.Isolation

open Text Journal

def schemaVersion : Nat := 1

inductive Error where
  | invalidScope | invalidOperation | invalidTransition | revisionConflict | notFound
  | resolverAuthority | wakeFactMissing | wakeNotReady | gateResolved
  | journal (error : Journal.Error)
  deriving DecidableEq

structure RunScope where
  (installationID controlRunID : String)
  deriving DecidableEq

inductive TaskPhase where
  | discovered | auditingReadOnly | readyForOwnership | owned | executing | verifying | accepted
  | deferred | needsInput | rollbackRequired | failed
  deriving DecidableEq

inductive RunPhase where
  | active | frozenSecurity | quiescent
  deriving DecidableEq

inductive GateKind where
  | timeNotBefore | externalStatus | workflowTerminal | evidenceRequired | noOverlapWindow
  | humanApproval | securityContainment
  deriving DecidableEq

inductive GateState where
  | pending | resolved
  deriving DecidableEq

structure TaskState where
  (taskID attemptID : String)
  phase : TaskPhase
  deriving DecidableEq

structure InboxItem where
  (journalPosition runSequence : Nat)
  (eventID correlationID taskID attemptID externalActionID : String)
  actionGeneration : Nat
  (producer consumer payloadDigest : String)
  acknowledgementReceipt : String := ""
  deriving DecidableEq

structure PendingWorkGate where
  (id taskID : String)
  kind : GateKind
  resolverAuthority : String
  wakeEventID : String := ""
  wakeAt : Time := 0
  state : Option GateState := none
  wakeReceipt : String := ""
  deriving DecidableEq

structure TaskPhaseDelta where
  taskID : String
  attemptID : String := ""
  fromPhase : Option TaskPhase
  toPhase : TaskPhase
  deriving DecidableEq

structure RunPhaseDelta where
  (fromPhase toPhase : RunPhase)
  authority : String
  deriving DecidableEq

structure InboxAppendDelta where
  (eventID correlationID taskID attemptID externalActionID : String)
  actionGeneration : Nat
  (producer consumer payloadDigest : String)
  deriving DecidableEq

structure InboxAckDelta where
  (eventID consumer receiptID : String)
  deriving DecidableEq

structure GateWakeDelta where
  (gateID resolverAuthority wakeEventID : String)
  wakeTime : Time
  wakeReceipt : String
  deriving DecidableEq

/-- The one delta of an envelope; its constructor is the envelope's `SemanticOperation`. -/
inductive Delta where
  | taskPhase (delta : TaskPhaseDelta)
  | runPhase (delta : RunPhaseDelta)
  | inboxAppend (delta : InboxAppendDelta)
  | inboxAck (delta : InboxAckDelta)
  | gateRegister (gate : PendingWorkGate)
  | gateWake (delta : GateWakeDelta)
  deriving DecidableEq

def Delta.semanticOperation : Delta → String
  | .taskPhase _ => "isolation.task_phase"
  | .runPhase _ => "isolation.run_phase"
  | .inboxAppend _ => "isolation.inbox_append"
  | .inboxAck _ => "isolation.inbox_acknowledge"
  | .gateRegister _ => "isolation.gate_register"
  | .gateWake _ => "isolation.gate_wake"

structure RequestEnvelope where
  schemaVersion : Nat
  scope : RunScope
  operationID : String
  (graphRevision expectedRevision : Nat)
  input : Delta
  deriving DecidableEq

structure OutcomeEnvelope where
  schemaVersion : Nat
  scope : RunScope
  delta : Delta
  deriving DecidableEq

def validIdentifier (value : String) (maximum : Nat) : Bool :=
  trimmed value && value ≠ "" && value.utf8ByteSize ≤ maximum && !containsAny value [0, 9, 10, 13, 32]

end Paje.Isolation
