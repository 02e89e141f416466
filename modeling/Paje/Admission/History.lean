import Paje.Admission.Replay

/-!
Rebuilds over a log of commits: from zero or from a cached prefix, a rebuild is the fold of one pure
step per entry.
-/

namespace Paje.Admission

open Text Journal List Table MemoryStore Projection Replay GlobalCursor

variable {entry : Entry} {back front : List Entry} {r : Replay} {record : TransitionRecord}

section Frames

variable {p q : Projection}

def RunAdmission.releasedBy (prior : RunAdmission) (value : AdmissionTombstone) (sequence : Nat) : RunAdmission :=
  { prior with
    state := .released
    receiptID := value.terminalReceiptID
    sequence
    graphRevision := value.graphRevision
    generation := value.generation
    policyVersion := value.policyVersion
    policyDigest := value.policyDigest }

def Renews (prior value : Lease) : Prop :=
  prior.subject = value.subject ∧ prior.state = .active ∧ value.state = .active ∧
    prior.generation < value.generation ∧
    value.originalRequestDigest = prior.originalRequestDigest ∧
    value.issuedAt = prior.issuedAt ∧ prior.expiresAt < value.expiresAt

def Ends (prior : Lease) (requested : LeaseTransitionSubject) (value : LeaseTombstone) : Prop :=
  prior.state = .active ∧ prior.subject = value.subject ∧ prior.originalRequestDigest = value.originalRequestDigest ∧
    (value.state = .released ∨ value.state = .expired) ∧ requested.lease = prior.subject ∧
    requested.expiresAt = prior.expiresAt ∧ value.issuedAt = prior.issuedAt ∧
    value.expiresAt = prior.expiresAt ∧ prior.issuedAt ≤ value.terminalAt ∧
    (value.state = .expired → prior.expiresAt ≤ value.terminalAt)

def Lease.endedBy (prior : Lease) (value : LeaseTombstone) : Lease :=
  { prior with
    state := value.state
    receiptID := value.terminalReceiptID
    generation := value.generation
    graphRevision := value.graphRevision }

def PassesOn (prior : Option EvidenceHandoff) (value : EvidenceHandoff) : Prop :=
  match prior with
  | some prior => prior.subject = value.subject ∧
    validHandoffTransition prior.state value.state = true ∧ value.predecessorReceiptID = prior.receiptID
  | none => value.state = .issued ∧ value.predecessorReceiptID = ""

/-- What the replay of a transition checks, and what its effect makes of `p`. -/
@[mk_iff] inductive Applied (p : Projection) (operation : SemanticOperation) (runID : String) (sequence : Nat)
    (subject : Subject) : Effect → Projection → Prop
  | admission {value : RunAdmission} :
    (∀ prior ∈ p.admissions.get? (scopedID runID value.subject.id),
      prior.subject = value.subject ∧ validAdmissionTransition prior.state value.state = true) →
    (p.admissions.get? (scopedID runID value.subject.id) = none → value.state = .reserved) →
    Applied p operation runID sequence subject (.admission value) { p with
      admissions := p.admissions.put (scopedID runID value.subject.id) { value with sequence } }
  | admissionTombstone {value : AdmissionTombstone} {prior : RunAdmission} :
    p.admissions.get? (scopedID runID value.subject.id) = some prior → prior.state ≠ .released →
    prior.subject = value.subject → prior.originalRequestDigest = value.originalRequestDigest →
    releaseOperation prior.state = operation →
    Applied p operation runID sequence subject (.admissionTombstone value) { p with
      admissions := p.admissions.put (scopedID runID value.subject.id) (prior.releasedBy value sequence)
      admissionTombs := p.admissionTombs.put (scopedID runID value.subject.id) value }
  | lease {value : Lease} :
    (∀ prior ∈ p.leases.get? (scopedID runID value.subject.id), Renews prior value) → value.state = .active →
    Applied p operation runID sequence subject (.lease value)
      { p with leases := p.leases.put (scopedID runID value.subject.id) value }
  | leaseTombstone {value : LeaseTombstone} {prior : Lease} {requested : LeaseTransitionSubject} :
    p.leases.get? (scopedID runID value.subject.id) = some prior → subject = .leaseRequest requested →
    Ends prior requested value →
    Applied p operation runID sequence subject (.leaseTombstone value) { p with
      leases := p.leases.put (scopedID runID value.subject.id) (prior.endedBy value)
      leaseTombs := p.leaseTombs.put (scopedID runID value.subject.id) value }
  | handoff {value : EvidenceHandoff} : PassesOn (p.handoffs.get? (scopedID runID value.id)) value →
    (∀ owner ∈ p.handoffReceipts.get? value.receiptID, owner = scopedID runID value.id) →
    Applied p operation runID sequence subject (.handoff value) { p with
      handoffs := p.handoffs.put (scopedID runID value.id) { value with sequence }
      handoffReceipts := p.handoffReceipts.put value.receiptID (scopedID runID value.id) }
  | recovery {value : RecoveryRecord} :
    (∀ prior ∈ p.recoveries.get? (recoveryIndex value.identity), (∀ record ∈ latestRecovery p value.identity,
        record.identity.generation ≤ value.identity.generation) ∧
      validRecoveryTransition prior.state value.state = true) →
    (p.recoveries.get? (recoveryIndex value.identity) = none →
      value.state = .observationStarted ∧ mayStart (latestRecovery p value.identity) value.identity) →
    Applied p operation runID sequence subject (.recovery value)
      { p with recoveries := p.recoveries.put (recoveryIndex value.identity) value }

attribute [local simp] check_bind_ok require_iff pure_iff applied_iff and_assoc

theorem apply_iff : p.apply record = .ok q ↔
    Applied p record.outcome.semanticOperation record.binding.controlRunID record.receipt.outcome.journalPosition
      record.request.subject record.outcome.effect q := by
  unfold apply
  cases record.outcome.effect with
  | admission value =>
    cases found : p.admissions.get? (scopedID record.binding.controlRunID value.subject.id) <;>
      simp [applyAdmission, found, -bind_pure_comp]
  | admissionTombstone value =>
    cases found : p.admissions.get? (scopedID record.binding.controlRunID value.subject.id) <;>
      simp [applyAdmissionTombstone, RunAdmission.releasedBy, found, -bind_pure_comp]
  | lease value =>
    cases found : p.leases.get? (scopedID record.binding.controlRunID value.subject.id) <;>
      simp [applyLease, Renews, found, -bind_pure_comp]
    tauto
  | leaseTombstone value =>
    cases found : p.leases.get? (scopedID record.binding.controlRunID value.subject.id) <;>
      cases record.request.subject <;>
      simp [applyLeaseTombstone, Ends, Lease.endedBy, found, -bind_pure_comp]
  | handoff value =>
    cases found : p.handoffs.get? (scopedID record.binding.controlRunID value.id) <;>
      simp [applyHandoff, PassesOn, found, -bind_pure_comp]
  | recovery value =>
    cases found : p.recoveries.get? (recoveryIndex value.identity) <;>
      simp [applyRecovery, found, -bind_pure_comp]

theorem apply_frame (h : p.apply record = .ok q) :
    q.installationID = p.installationID ∧ q.runHeads = p.runHeads ∧
      q.transitions = p.transitions ∧ q.idempotency = p.idempotency := by
  have applied := apply_iff.mp h
  generalize record.outcome.effect = effect at applied
  cases applied <;> exact ⟨rfl, rfl, rfl, rfl⟩

end Frames

theorem latestRecovery_congr {p base : Projection} (same : base.recoveries = p.recoveries)
    (identity : RecoveryIdentity) : latestRecovery base identity = latestRecovery p identity := by
  rw [latestRecovery, latestRecovery, same]

def Projection.indexed (p : Projection) (record : TransitionRecord) : Projection :=
  { p with
    transitions := p.transitions.put (semanticIndex record.binding.controlRunID record.binding.actionID
      record.binding.generation) record
    idempotency :=
      p.idempotency.put (idempotencyIndex record.binding.controlRunID record.binding.idempotencyKey) record }

variable {p q : Projection}

theorem enter_ok (h : enter p record = .ok q) :
    (∀ prior ∈ p.transitions.get? (semanticIndex record.binding.controlRunID record.binding.actionID
      record.binding.generation), sameTransition prior record) ∧
    (∀ prior ∈ p.idempotency.get? (idempotencyIndex record.binding.controlRunID
      record.binding.idempotencyKey), sameTransition prior record) ∧ (p.indexed record).apply record = .ok q := by
  unfold enter at h
  obtain ⟨semantic, h⟩ := require_bind_ok h
  obtain ⟨idempotent, h⟩ := require_bind_ok h
  exact ⟨semantic, idempotent, h⟩

def openReservations (reservations : Table Event) (log : List Entry) : Table Event :=
  log.foldl (fun reservations entry =>
    if admissionComponent entry.result = .ok true then reservations
    else reservations.put entry.action.id entry.reservation) reservations

theorem mem_openReservations {reservations : Table Event} {log : List Entry} {id : String} :
    id ∈ (openReservations reservations log).keys ↔ id ∈ reservations.keys ∨
      ∃ entry ∈ log, admissionComponent entry.result ≠ .ok true ∧ entry.action.id = id := by
  induction log generalizing reservations with
  | nil => simp [openReservations]
  | cons entry rest ih =>
    rw [openReservations, foldl_cons, ← openReservations, ih]
    split
    · rename_i ours
      simp [ours]
    · rename_i foreign
      simp only [mem_keys_put, exists_mem_cons_iff, ne_eq, foreign, not_false_eq_true, true_and]
      rw [or_assoc, or_left_comm, eq_comm]

/-- No foreign entry took an action identifier of this component. -/
def Clean (log : List Entry) : Prop :=
  ∀ entry ∈ log, admissionComponent entry.result ≠ .ok true → beginsWith "admission_action_" entry.action.id = false

instance (log : List Entry) : Decidable (Clean log) :=
  inferInstanceAs (Decidable (∀ entry ∈ log, admissionComponent entry.result ≠ .ok true →
    beginsWith "admission_action_" entry.action.id = false))

theorem clean_append {front back : List Entry} : Clean (front ++ back) ↔ Clean front ∧ Clean back := by
  simp only [Clean, mem_append, or_imp, forall_and]

variable {p : Projection}

theorem finish_eq (installed : p.installationID ≠ "") (log : List Entry) (n : Nat)
    (cursor : GlobalCursor) :
    finish { projection := p, reservations := openReservations ∅ log, wantPosition := n }
      cursor = if Clean log then .ok { p with global := cursor } else .error invalidRecord := by
  have free : (∀ id ∈ (openReservations ∅ log).keys, ¬ beginsWith "admission_action_" id = true) ↔ Clean log := by
    simp only [mem_openReservations, Clean, Bool.not_eq_true]
    constructor
    · intro none entry listed foreign
      exact none _ (.inr ⟨entry, listed, foreign, rfl⟩)
    · rintro clean id (absent | ⟨entry, listed, foreign, rfl⟩)
      · cases absent
      · exact clean entry listed foreign
  unfold finish
  rw [require_bind _ installed]
  simp only [require, free]
  split <;> rfl

variable [sha : Sha]

def recordOf (entry : Entry) (request : RequestEnvelope) (outcome : OutcomeEnvelope) : TransitionRecord where
  binding := request.binding
  request := request
  outcome := outcome
  receipt := ⟨entry.action, entry.reservation, entry.outcome, true⟩

namespace Projection

def advance (p : Projection) (entry : Entry) : Projection :=
  (p.withHead entry.action.controlRunID entry.reservation.runSequence).withHead
    entry.action.controlRunID entry.outcome.runSequence

/-- One entry of a replay: foreign entries only move their run's head. -/
def absorb (p : Projection) (entry : Entry) : Except Error Projection := do
  let p := p.advance entry
  let ours ← admissionComponent entry.result
  if ours then
    let request ← decodeRequest entry.requestRead
    let outcome ← decodeOutcome entry.result
    validatePersistedTransition p.installationID entry.action entry.reservation entry.outcome
      request outcome
    Replay.enter p (recordOf entry request outcome)
  else return p

end Projection

theorem absorb_ok (h : p.absorb entry = .ok q) :
    (admissionComponent entry.result = .ok false ∧ q = p.advance entry) ∨
    ∃ request outcome, entry.requestRead = .admissionRequest request ∧ entry.result = .admissionOutcome outcome ∧
      validatePersistedTransition p.installationID entry.action entry.reservation entry.outcome
        request outcome = .ok () ∧ enter (p.advance entry) (recordOf entry request outcome) = .ok q := by
  unfold absorb at h
  obtain ⟨ours, named, h⟩ := bind_ok h
  split at h
  · obtain ⟨request, decoded, h⟩ := bind_ok h
    obtain ⟨outcome, decoded', h⟩ := bind_ok h
    obtain ⟨_, valid, h⟩ := bind_ok h
    refine .inr ⟨request, outcome, ?_, ?_, valid, h⟩
    · unfold decodeRequest at decoded
      split at decoded
      · rename_i same
        rw [same, Except.ok.inj decoded]
      · cases decoded
    · unfold decodeOutcome at decoded'
      split at decoded'
      · rename_i same
        rw [same, Except.ok.inj decoded']
      · cases decoded'
  · rename_i foreign
    exact .inl ⟨by simpa [foreign] using named, (pure_ok h).symm⟩

theorem absorb_frame (h : p.absorb entry = .ok q) :
    q.installationID = p.installationID ∧ q.runHeads = (p.advance entry).runHeads := by
  obtain ⟨_, rfl⟩ | ⟨_, _, _, _, _, entered⟩ := absorb_ok h
  · exact ⟨rfl, rfl⟩
  · obtain ⟨installation, heads, _⟩ := apply_frame (enter_ok entered).2.2
    exact ⟨installation, heads⟩

/-- The replay state `r` has consumed the events of `front`. -/
structure Consumed (front : List Entry) (r : Replay) : Prop where
  position : r.wantPosition = 2 * front.length + 1
  heads : ∀ run, r.projection.head run = ((eventsOf front).filter (·.controlRunID = run)).length
  reservations : ∀ id ∈ r.reservations.keys, ∃ entry ∈ front, entry.action.id = id

theorem replay_reservation (formed : entry.WellFormed) (position : entry.reservation.journalPosition = r.wantPosition)
    (sequence : entry.reservation.runSequence = r.projection.head entry.action.controlRunID + 1)
    (fresh : r.reservations.get? entry.action.id = none) (evidence : Evidence) :
    r.step entry.reservation evidence = .ok {
      projection := r.projection.withHead entry.action.controlRunID entry.reservation.runSequence
      reservations := r.reservations.put entry.action.id entry.reservation
      wantPosition := r.wantPosition + 1 } := by
  have run : entry.reservation.controlRunID = entry.action.controlRunID := by
    rw [formed.reservation]; rfl
  have kind := formed.reservedKind
  have id : entry.reservation.actionID = entry.action.id := by rw [formed.reservation]; rfl
  have encodable : entry.reservation.occurredAt.Encodable := by
    rw [formed.reservation]
    show Time.unixEpoch.Encodable
    decide
  unfold step
  rw [run, id, require_bind _ ⟨position, sequence⟩]
  dsimp only
  rw [require_bind _ encodable, if_pos kind, require_bind _ fresh]
  rfl

theorem replay_entry (formed : entry.WellFormed) (position : entry.reservation.journalPosition = r.wantPosition)
    (sequence : entry.reservation.runSequence = r.projection.head entry.action.controlRunID + 1)
    (fresh : r.reservations.get? entry.action.id = none) :
    Entry.replay Replay.step r entry = r.projection.absorb entry >>= fun p => .ok {
      projection := p
      reservations := openReservations r.reservations [entry]
      wantPosition := r.wantPosition + 2 } := by
  rw [Entry.replay, replay_reservation formed position sequence fresh, ok_bind, Replay.step]
  have outcomeKind : entry.outcome.kind ≠ .actionReserved ∧ entry.outcome.kind.isOutcome = true := by
    rcases formed.kind with k | k | k <;> simp [k, EventKind.isOutcome]
  have next : entry.outcome.journalPosition = r.wantPosition + 1 ∧
      entry.outcome.runSequence = (r.projection.withHead entry.action.controlRunID
        entry.reservation.runSequence).head entry.outcome.controlRunID + 1 := by
    refine ⟨by rw [formed.nextPosition, position], ?_⟩
    rw [formed.run, Projection.head, Projection.withHead, Table.get?_put_self, formed.nextSequence]
    rfl
  rw [require_bind _ next]
  dsimp only
  rw [require_bind _ formed.encodable, if_neg outcomeKind.1, if_neg (by simp [outcomeKind.2])]
  simp only [Entry.evidence, relabel, ok_bind, formed.run, formed.bound, Table.get?_put_self]
  unfold Projection.absorb
  rcases ours : admissionComponent entry.result with _ | own
  · rfl
  · cases own with
    | true =>
      simp only [ok_bind, not_true_eq_false, if_false, if_true, bind_assoc, openReservations, ours,
        List.foldl_cons, List.foldl_nil, Table.drop_put_fresh fresh]
      rfl
    | false => simp [openReservations, ours, pure, Except.pure, Projection.advance]

theorem entry_numbered (numbered : Numbered (eventsOf (front ++ entry :: back))) (formed : entry.WellFormed) :
    entry.reservation.journalPosition = 2 * front.length + 1 ∧ entry.reservation.runSequence =
        ((eventsOf front).filter (·.controlRunID = entry.action.controlRunID)).length + 1 := by
  have split : eventsOf (front ++ entry :: back) =
      eventsOf front ++ entry.reservation :: entry.outcome :: eventsOf back := by
    rw [eventsOf_append]; rfl
  have run : entry.reservation.controlRunID = entry.action.controlRunID := by
    rw [formed.reservation]; rfl
  rw [split] at numbered
  rw [← length_eventsOf, ← run]
  exact numbered.next

theorem head_absorb (formed : entry.WellFormed)
    (sequence : entry.reservation.runSequence = p.head entry.action.controlRunID + 1)
    (absorbed : p.absorb entry = .ok q) (run : String) :
    q.head run = p.head run + (entry.events.filter (·.controlRunID = run)).length := by
  have firstRun : entry.reservation.controlRunID = entry.action.controlRunID := by
    rw [formed.reservation]; rfl
  rw [Projection.head, (absorb_frame absorbed).2]
  simp only [Projection.advance, Projection.withHead, Table.get?_put, Entry.events]
  by_cases same : run = entry.action.controlRunID
  · simp [same, firstRun, formed.run, formed.nextSequence, sequence]
  · simp [same, firstRun, formed.run, Ne.symm same, Projection.head]

theorem heads_fold (numbered : Numbered (eventsOf (front ++ back)))
    (formed : ∀ entry ∈ back, entry.WellFormed)
    (heads : ∀ run, p.head run = ((eventsOf front).filter (·.controlRunID = run)).length)
    (folded : back.foldlM absorb p = .ok q) (run : String) :
    q.head run = ((eventsOf (front ++ back)).filter (·.controlRunID = run)).length := by
  induction back generalizing front p with
  | nil => rw [← pure_ok folded, append_nil, heads]
  | cons entry rest ih =>
    rw [foldlM_cons] at folded
    obtain ⟨next, absorbed, folded⟩ := bind_ok folded
    have mine := formed entry mem_cons_self
    have sequence := (entry_numbered numbered mine).2
    rw [← heads] at sequence
    have whole : front ++ entry :: rest = front ++ [entry] ++ rest := by simp
    rw [whole] at numbered ⊢
    refine ih numbered (fun e m => formed e (mem_cons_of_mem _ m)) (fun run => ?_) folded
    rw [head_absorb mine sequence absorbed, heads, eventsOf_append, eventsOf_singleton,
      filter_append, length_append]

theorem Consumed.next (consumed : Consumed front r) (formed : entry.WellFormed)
    (sequence : entry.reservation.runSequence = r.projection.head entry.action.controlRunID + 1)
    (absorbed : r.projection.absorb entry = .ok p) : Consumed (front ++ [entry]) {
      projection := p
      reservations := openReservations r.reservations [entry]
      wantPosition := r.wantPosition + 2 } where
  position := by
    simp only [consumed.position, length_append, length_singleton]
    omega
  heads run := by
    rw [eventsOf_append, eventsOf_singleton, filter_append, length_append, ← consumed.heads run]
    exact head_absorb formed sequence absorbed run
  reservations id member := by
    rcases mem_openReservations.mp member with before | ⟨other, inSingle, _, named⟩
    · obtain ⟨old, inFront, named⟩ := consumed.reservations id before
      exact ⟨old, mem_append_left _ inFront, named⟩
    · exact ⟨other, mem_append_right _ inSingle, named⟩

theorem replay_fold (numbered : Numbered (eventsOf (front ++ back))) (formed : ∀ entry ∈ back, entry.WellFormed)
    (distinct : ((front ++ back).map (·.action.id)).Nodup) (consumed : Consumed front r) :
    back.foldlM (Entry.replay Replay.step) r = back.foldlM Projection.absorb r.projection >>= fun p => .ok {
        projection := p
        reservations := openReservations r.reservations back
        wantPosition := r.wantPosition + 2 * back.length } := by
  induction back generalizing front r with
  | nil => rfl
  | cons entry rest ih =>
    have mine := formed entry List.mem_cons_self
    obtain ⟨position, sequence⟩ := entry_numbered numbered mine
    rw [← consumed.position] at position
    rw [← consumed.heads] at sequence
    have fresh : r.reservations.get? entry.action.id = none := by
      refine AList.lookup_eq_none.mpr fun present => ?_
      obtain ⟨old, inFront, named⟩ := consumed.reservations _ (AList.mem_keys.mp present)
      rw [List.map_append, List.nodup_append] at distinct
      exact distinct.2.2 _ (List.mem_map_of_mem inFront) _ List.mem_cons_self named
    rw [List.foldlM_cons, List.foldlM_cons, replay_entry mine position sequence fresh, bind_assoc, bind_assoc]
    cases absorbed : r.projection.absorb entry with
    | error e => rfl
    | ok p =>
      have whole : front ++ entry :: rest = front ++ [entry] ++ rest := by simp
      rw [whole] at numbered distinct
      simp only [ok_bind]
      rw [ih numbered (fun e m => formed e (List.mem_cons_of_mem _ m)) distinct
        (consumed.next mine sequence absorbed)]
      congr 1
      funext q
      simp only [openReservations, List.foldl_cons, List.foldl_nil, List.length_cons, Except.ok.injEq,
        Replay.mk.injEq, true_and]
      omega

def start (installationID : String) : Projection := { installationID }

def replay (installationID : String) (log : List Entry) : Except Error Projection :=
  log.foldlM Projection.absorb (start installationID)

theorem replay_append {installationID : String} : replay installationID (front ++ back) =
      replay installationID front >>= fun p => back.foldlM absorb p := by
  rw [replay, foldlM_append]
  rfl

theorem fold_installation {log : List Entry}
    (h : log.foldlM absorb p = .ok q) : q.installationID = p.installationID :=
  foldlM_inv (fun s => s.installationID = p.installationID)
    (fun _ _ _ _ same absorbed => (absorb_frame absorbed).1.trans same) rfl h

section Rebuild

variable {store : MemoryStore} {log : List Entry} (holds : store.Holds log) (clean : Clean log)
  (named : store.installationID ≠ "")

def viewOf (store : MemoryStore) (log : List Entry) (p : Projection) : View :=
  { p with global := store.cursorAt (2 * log.length) }

theorem page_folds (ready : r.projection.installationID = store.installationID)
    (named : store.installationID ≠ "") (events : List Event) (n : Nat) :
    page store r events (store.cursorAt n) = events.foldlM (store.replay step) r := by
  have present : r.projection.installationID ≠ "" := ready ▸ named
  simp only [page, if_neg present]
  rw [require_bind _ ⟨ready.symm, rfl⟩]

theorem step_installation {t : Replay} {event : Event} {evidence : Evidence} (h : r.step event evidence = .ok t) :
    t.projection.installationID = r.projection.installationID := by
  unfold step at h
  obtain ⟨_, h⟩ := require_bind_ok h
  obtain ⟨_, h⟩ := require_bind_ok h
  split at h
  · obtain ⟨_, h⟩ := require_bind_ok h
    exact pure_ok h ▸ rfl
  · split at h
    · exact pure_ok h ▸ rfl
    · obtain ⟨payload, _, h⟩ := bind_ok h
      obtain ⟨_, _, h⟩ := bind_ok h
      split at h
      · exact pure_ok h ▸ rfl
      · split at h
        · cases h
        · obtain ⟨action, _, h⟩ := bind_ok h
          obtain ⟨requestPayload, _, h⟩ := bind_ok h
          obtain ⟨request, _, h⟩ := bind_ok h
          obtain ⟨outcome, _, h⟩ := bind_ok h
          obtain ⟨_, _, h⟩ := bind_ok h
          obtain ⟨p, entered, h⟩ := bind_ok h
          rw [← pure_ok h]
          exact (apply_frame (enter_ok entered).2.2).1

theorem step_ignores (r : Replay) (event : Event) (one two : Evidence)
    (reserved : event.kind = .actionReserved) : r.step event one = r.step event two := by
  simp only [step, if_pos reserved]

theorem read_events (numbered : Numbered store.events) (named : store.installationID ≠ "")
    (ready : r.projection.installationID = store.installationID) {n : Nat}
    (within : n ≤ store.events.length) {cursor : GlobalCursor}
    (same : store.feed cursor 1000 = store.feed (store.cursorAt n) 1000) :
    Paging.readAll (fun c => relabel (storeError none) (store.feed c 1000)) (page store)
        invalidRecord (store.events.length + 1) cursor r =
      (store.events.drop n).foldlM (store.replay step) r >>= fun t =>
        .ok (t, store.cursorAt store.events.length) := by
  have served := (feed_serves numbered).relabel (storeError none)
  exact Paging.readAll_eq served (fun r => r.projection.installationID = store.installationID)
    invalidRecord
    (fun r ready events n => page_folds ready named events n)
    (fun r event t ready taken => (step_installation taken).trans ready)
    ready within (by omega) (congrArg _ same)

theorem replay_heads (whole : log = front ++ back) (holds : store.Holds log)
    (prior : replay store.installationID front = .ok p) (run : String) :
    p.head run = ((eventsOf front).filter (·.controlRunID = run)).length := by
  have formed : ∀ entry ∈ front, entry.WellFormed := fun entry m =>
    holds.wellFormed entry (by rw [whole]; exact mem_append_left _ m)
  have numbered := holds.numbered
  rw [holds.events, whole, eventsOf_append] at numbered
  have prefixed : Numbered (eventsOf ([] ++ front)) := numbered.of_append
  exact heads_fold prefixed formed (fun _ => rfl) prior run

theorem read_names (named : store.installationID ≠ "") (numbered : Numbered store.events) (budget : Nat) :
    Paging.readAll (fun c => relabel (storeError none) (store.feed c 1000)) (page store)
        invalidRecord (budget + 1) zero { projection := newProjection, wantPosition := 1 } =
      Paging.readAll (fun c => relabel (storeError none) (store.feed c 1000)) (page store)
        invalidRecord (budget + 1) zero
        { projection := start store.installationID, wantPosition := 1 } := by
  obtain ⟨k, _, fed⟩ := feed_serves numbered 0 (Nat.zero_le _)
  have first : relabel (storeError none) (store.feed zero 1000) = .ok
      ((store.events.drop 0).take k, store.cursorAt (min (0 + k) store.events.length)) :=
    congrArg (relabel (storeError none)) ((store.feed_zero 1000).trans fed)
  have page : ∀ events n, page store { projection := newProjection, wantPosition := 1 } events
      (store.cursorAt n) = page store
        { projection := start store.installationID, wantPosition := 1 } events (store.cursorAt n) := by
    intro events n
    simp [page, newProjection, start, cursorAt, named]
  rw [Paging.readAll, Paging.readAll, first, ok_bind, ok_bind]
  simp only [page]

theorem rebuildAll_events (numbered : Numbered store.events) (named : store.installationID ≠ "") : rebuildAll store =
      store.events.foldlM (store.replay step)
        { projection := start store.installationID, wantPosition := 1 } >>= fun r =>
          r.finish (store.cursorAt store.events.length) := by
  unfold rebuildAll rebuildFrom
  rw [show zero.journalPosition + 1 = 1 from rfl]
  simp only
  rw [read_names named numbered, read_events numbered named rfl (Nat.zero_le _) (store.feed_zero 1000), bind_assoc]
  rfl

theorem suffix_folds (whole : log = front ++ back) (holds : store.Holds log)
    (prior : replay store.installationID front = .ok p) :
    (store.events.drop (2 * front.length)).foldlM (store.replay step)
        { projection := p, wantPosition := 2 * front.length + 1 } =
      back.foldlM absorb p >>= fun q => .ok {
        projection := q
        reservations := openReservations ∅ back
        wantPosition := 2 * front.length + 1 + 2 * back.length } := by
  have consumed : Consumed front { projection := p, wantPosition := 2 * front.length + 1 } :=
    ⟨rfl, replay_heads whole holds prior, fun _ m => nomatch m⟩
  have rest : log.drop front.length = back := by rw [whole]; exact drop_left
  have formed : ∀ entry ∈ back, entry.WellFormed := fun entry m =>
    holds.wellFormed entry (by rw [whole]; exact mem_append_right _ m)
  have numbered := holds.numbered
  rw [holds.events, whole] at numbered
  rw [holds.replay_eq step_ignores front.length, rest]
  exact replay_fold numbered formed (whole ▸ holds.distinct) consumed

theorem rebuildAll_folds (holds : store.Holds log) (named : store.installationID ≠ "") : rebuildAll store =
    replay store.installationID log >>= fun p =>
      if Clean log then .ok (viewOf store log p) else .error invalidRecord := by
  have all := suffix_folds (nil_append log).symm holds (rfl : replay _ [] = _)
  rw [length_nil, Nat.mul_zero, drop_zero] at all
  rw [rebuildAll_events holds.numbered named, all, bind_assoc, replay]
  cases folded : log.foldlM absorb (start store.installationID) with
  | error e => rfl
  | ok q =>
    have installed : q.installationID ≠ "" := by rw [fold_installation folded]; exact named
    rw [ok_bind, ok_bind, ok_bind, finish_eq installed, viewOf, holds.length]

theorem rebuildAll_eq (holds : store.Holds log) (clean : Clean log) (named : store.installationID ≠ "") :
    rebuildAll store = replay store.installationID log >>= fun p => .ok (viewOf store log p) := by
  simp only [rebuildAll_folds holds named, if_pos clean]

/-- From any prefix that a rebuild accepted, the rest of the events decide what a rebuild from zero
returns. -/
theorem suffix_decides (whole : log = front ++ back) (holds : store.Holds log)
    (named : store.installationID ≠ "") (clean : Clean front)
    (prior : replay store.installationID front = .ok p) :
    (store.events.drop (2 * front.length)).foldlM (store.replay step)
        { projection := p, wantPosition := 2 * front.length + 1 } >>=
      (fun r => r.finish (store.cursorAt store.events.length)) = rebuildAll store := by
  rw [suffix_folds whole holds prior, rebuildAll_folds holds named, holds.length]
  subst whole
  rw [replay_append, prior, ok_bind, bind_assoc]
  cases result : back.foldlM absorb p with
  | error e => rfl
  | ok q =>
    have installed : q.installationID ≠ "" := by
      rw [fold_installation result, fold_installation prior]
      exact named
    rw [ok_bind, ok_bind, ok_bind, finish_eq installed, viewOf]
    simp only [clean_append, clean, true_and]

def Complete (store : MemoryStore) (log : List Entry) (view : View) : Prop :=
  ∃ front back p, log = front ++ back ∧ Clean front ∧ replay store.installationID front = .ok p ∧
    view = viewOf store front p

theorem Complete.extend {after : MemoryStore} {view : View}
    (same : after.installationID = store.installationID) (h : Complete store log view)
    (more : List Entry) : Complete after (log ++ more) view := by
  obtain ⟨front, back, p, whole, clean, prior, rfl⟩ := h
  refine ⟨front, back ++ more, p, by rw [whole, append_assoc], clean, same ▸ prior, ?_⟩
  simp only [viewOf, cursorAt, same]

section

variable (holds : store.Holds log)
include holds

theorem rebuildAll_complete (named : store.installationID ≠ "") {view : View}
    (h : rebuildAll store = .ok view) : Complete store log view := by
  rw [rebuildAll_folds holds named] at h
  obtain ⟨p, replayed, h⟩ := bind_ok h
  split at h
  · rename_i clean
    exact ⟨log, [], p, (append_nil log).symm, clean, replayed, (Except.ok.inj h).symm⟩
  · cases h

variable {cache : Option View}

theorem Complete.rebuild_eq (named : store.installationID ≠ "")
    (cached : ∀ view ∈ cache, Complete store log view) :
    (rebuild store cache).1 = rebuildAll store := by
  have uncached : (rebuildUncached store).1 = rebuildAll store := by
    unfold rebuildUncached
    cases rebuildAll store <;> rfl
  unfold rebuild
  split
  · exact uncached
  · rename_i view loaded
    obtain ⟨front, back, p, whole, clean, prior, rfl⟩ :=
      cached view (Option.mem_filter_iff.mp loaded).1
    have within : 2 * front.length ≤ store.events.length := by
      rw [holds.length, whole, length_append]
      omega
    have read : rebuildFrom store (viewOf store front p).toProjection (viewOf store front p).global =
        rebuildAll store := by
      rw [← suffix_decides whole holds named clean prior]
      unfold rebuildFrom
      simp only [viewOf]
      have events := read_events (r := { projection := p, wantPosition := 2 * front.length + 1 })
        holds.numbered named (fold_installation prior) within rfl
      rw [show (store.cursorAt (2 * front.length)).journalPosition = 2 * front.length from rfl, events, bind_assoc]
      rfl
    rw [read]
    cases result : rebuildAll store with
    | ok q => rfl
    | error e =>
      simp only
      split
      · rw [uncached, result]
      · rfl

def ViewOfPrefix (store : MemoryStore) (log : List Entry) (view : View) : Prop :=
  ∃ front back p, log = front ++ back ∧ replay store.installationID front = .ok p ∧ view = viewOf store front p

theorem rebuild_eq (clean : Clean log) (named : store.installationID ≠ "")
    (cached : ∀ view ∈ cache, ViewOfPrefix store log view) :
    (rebuild store cache).1 = rebuildAll store := by
  refine Complete.rebuild_eq holds named fun view held => ?_
  obtain ⟨front, back, p, whole, prior, same⟩ := cached view held
  exact ⟨front, back, p, whole, (clean_append.mp (whole ▸ clean)).1, prior, same⟩

theorem rebuild_caches (clean : Clean log) (named : store.installationID ≠ "")
    (cached : ∀ view ∈ cache, ViewOfPrefix store log view) :
    ∀ view ∈ (rebuild store cache).2, ViewOfPrefix store log view := by
  have whole : ∀ view, rebuildAll store = .ok view → ViewOfPrefix store log view := by
    intro view read
    rw [rebuildAll_eq holds clean named] at read
    obtain ⟨p, replayed, read⟩ := bind_ok read
    exact ⟨log, [], p, (append_nil log).symm, replayed, (Except.ok.inj read).symm⟩
  have uncached : ∀ view ∈ (rebuildUncached store).2, ViewOfPrefix store log view := by
    intro view
    unfold rebuildUncached
    cases result : rebuildAll store with
    | error e => intro m; cases m
    | ok q =>
      intro m
      cases m
      exact whole _ result
  have installed : ∀ candidate, ViewOfPrefix store log candidate →
      ∀ view ∈ installProjectionCache cache candidate, ViewOfPrefix store log view := by
    intro candidate valid view m
    unfold installProjectionCache at m
    split at m
    · cases m
      exact valid
    · rename_i kept
      have keep := cached kept (by simp)
      repeat' split at m
      all_goals first | (cases m; exact valid) | (cases m; exact keep) | cases m
  have fst := rebuild_eq holds clean named cached
  unfold rebuild at fst ⊢
  split at fst
  · exact uncached
  · split at fst
    · rename_i view _ p _
      simp only at fst ⊢
      split
      · exact cached
      · exact installed p (whole p fst.symm)
    · split
      · exact uncached
      · exact cached

end

end Rebuild

end Paje.Admission
