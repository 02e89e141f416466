import Paje.Admission.Types

/-!
Records of the scheduler: its policy, the ready queue's items, and the recovery entries, results
and envelopes that its own journal records carry. Durations are nanoseconds.
-/

namespace Paje.Scheduler

open Text Journal

abbrev Duration := Int

def maximumScanEntries : Nat := 100

inductive ErrorCode where
  | invalidRequest | invalidPolicy | noEligible | authority | cursor | budget

inductive Cause where
  | invalidRecord | invalidPolicy | noEligible | cursor | budget
  | journal (error : Journal.Error)
  | admission (error : Admission.Error)

structure Error where
  code : ErrorCode
  operation : String
  cause : Cause

def authorityError (operation : String) : Error := ⟨.authority, operation, .invalidRecord⟩

structure Policy where
  (version quantum : UInt64)
  agingInterval : Duration
  (maxAgeCredit consecutiveLimit : UInt64)
  maxScanEntries : Nat
  (observationBudget passBudget initialRetryBackoff maximumRetryBackoff : Duration)
  deriving DecidableEq

def defaultPolicy : Policy where
  version := 1
  quantum := 1024
  agingInterval := 60000000000
  maxAgeCredit := 300
  consecutiveLimit := 2
  maxScanEntries := maximumScanEntries
  observationBudget := 200000000
  passBudget := 250000000
  initialRetryBackoff := 30000000000
  maximumRetryBackoff := 300000000000

def Policy.validate (p : Policy) : Except Error Unit :=
  require (p.version ≠ 0 ∧ p = { defaultPolicy with version := p.version })
    ⟨.invalidPolicy, "policy", .invalidPolicy⟩

/-- `Admission` of a ready item: the request before it has an identity. -/
structure AdmissionWork where
  controlRunID : String
  subject : Admission.AdmissionSubject

structure ReadyItem where
  (id controlRunID : String)
  (weight virtualStart : UInt64)
  enqueueSequence : Nat
  enqueuedAt : Time
  admission : AdmissionWork
  attempt : UInt64

structure RankedItem where
  item : ReadyItem
  (virtualFinish ageCredit effectiveVirtualFinish : UInt64)

structure FairnessState where
  lastRunID : String := ""
  consecutiveAdmissions : UInt64 := 0

/-- `ObservationWork`; `recovery` names no installation until the observation has started. -/
structure ObservationWork where
  start : Admission.RecoveryRequest
  recovery : Admission.RecoveryIdentity
  (fenceIdentity applyIdentity : Admission.TransitionIdentity)
  deriving DecidableEq

structure RetryState where
  step : UInt64
  nextAttemptAt : Time
  deriving DecidableEq

/-- The pointer that a `RecoveryEntry` of each kind carries. -/
inductive RecoveryWork where
  | leaseExpiry (request : Admission.LeaseRequest)
  | observation (work : ObservationWork)
  deriving DecidableEq

structure RecoveryEntry where
  (id controlRunID sourceEventID : String)
  dueAt : Time
  retry : RetryState
  work : RecoveryWork
  deriving DecidableEq

inductive RetryCode where
  | transient | contention | ambiguous | provenSafe | fenced | semantic
  deriving DecidableEq

structure Backoff where
  code : RetryCode
  step : UInt64
  delay : Duration
  nextAttemptAt : Time
  (rescanAllowed actionRetryAllowed : Bool)
  deriving DecidableEq

inductive RecoveryOutcome where
  | applied | ambiguous | retryAllowed | fenced | leaseExpired | budgetExhausted | deferred | failed
  deriving DecidableEq

structure RecoveryResult where
  (entryID controlRunID : String)
  outcome : RecoveryOutcome
  backoff : Option Backoff
  deriving DecidableEq

structure RecoveryCheckpoint where
  (previousCursor nextCursor : Nat)
  results : List RecoveryResult
  deriving DecidableEq

/-- The one record a recovery envelope carries; its constructor is the envelope's `Operation`. -/
inductive RecoveryContent where
  | registration (entry : RecoveryEntry)
  | checkpoint (value : RecoveryCheckpoint)
  deriving DecidableEq

structure RecoveryJournalEnvelope where
  schemaVersion : Nat
  (component operationID : String)
  content : RecoveryContent
  deriving DecidableEq

end Paje.Scheduler
