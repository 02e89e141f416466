import Paje.Admission.System

/-!
Every commit replays: what each outcome builder checks implies what the replay of its record
checks, with two exceptions that `Orderly` names.
-/

namespace Paje.Admission

open Text Journal Table MemoryStore Projection Call

/-- Where a builder lets through what the replay refuses: an admission that already waits is
enqueued again, or a lease is released before the time it was issued at. -/
def Orderly (plan : Plan) (p : Projection) (now : Time) : Prop :=
  match plan with
  | .stateTransition request operation _ _ => operation = .queueEnqueue →
    ∀ prior ∈ p.admissions.get? (scopedID request.controlRunID request.subject.id),
      prior.state ≠ .queued ∧ prior.state ≠ .deferred
  | .terminalLease request _ state => state = .released →
    ∀ prior ∈ p.leases.get? (scopedID request.controlRunID request.subject.id), prior.issuedAt ≤ now
  | _ => True

instance (plan : Plan) (p : Projection) (now : Time) : Decidable (Orderly plan p now) := by
  unfold Orderly
  split <;> infer_instance

variable {call : Call} {operation : SemanticOperation} {s : Service}

/-! ### From the builder's checks to the replay's -/

theorem Call.Plans.stateTransition {request : AdmissionRequest} {state : AdmissionState} {limiter : QuotaKind}
    (planned : call.Plans s (.stateTransition request operation state limiter)) :
    (operation = .queueEnqueue ∧ state = .queued) ∨ (operation = .queueAdmit ∧ state = .admitted) ∨
      (operation = .backpressureDefer ∧ state = .deferred) := by
  obtain ⟨p, planned⟩ := planned
  cases call with
  | enqueue => cases planned; exact .inl ⟨rfl, rfl⟩
  | admitRun =>
    simp only [plan] at planned
    split at planned
    · cases planned; exact .inr (.inr ⟨rfl, rfl⟩)
    · cases planned; exact .inr (.inl ⟨rfl, rfl⟩)
  | release | cancelOrFence =>
    simp only [plan] at planned
    split at planned <;> cases planned
  | _ => cases planned

theorem waiting_follows {prior state : AdmissionState}
    (known : (operation = .queueEnqueue ∧ state = .queued) ∨ (operation = .queueAdmit ∧ state = .admitted) ∨
      (operation = .backpressureDefer ∧ state = .deferred)) (live : prior ≠ .released) (waiting : prior ≠ .admitted)
    (orderly : operation = .queueEnqueue → prior ≠ .queued ∧ prior ≠ .deferred) :
    validAdmissionTransition prior state = true := by
  rcases known with ⟨rfl, rfl⟩ | ⟨rfl, rfl⟩ | ⟨rfl, rfl⟩
  · obtain ⟨queued, deferred⟩ := orderly rfl
    cases prior <;> simp_all [validAdmissionTransition]
  all_goals cases prior <;> simp_all [validAdmissionTransition]

variable {state : RecoveryState}

theorem started_follows {status : ProviderStatus}
    (closes : fencedState status = some state ∨ appliedState status = some state) :
    validRecoveryTransition .observationStarted state = true := by
  cases status <;> simp_all [fencedState, appliedState]
  all_goals
    rcases closes with rfl | rfl
    all_goals rfl

theorem Call.Plans.cancelOrFence {request : FenceRequest}
    (planned : call.Plans s (.cancelOrFence request state)) : fencedState request.proof.status = some state := by
  obtain ⟨p, planned⟩ := planned
  cases call with
  | cancelOrFence =>
    simp only [plan] at planned
    split at planned
    · cases planned
    · rename_i known
      cases planned
      exact known
  | admitRun | release =>
    simp only [plan] at planned
    split at planned <;> cases planned
  | _ => cases planned

section Commits

variable [sha : Sha]

/-! ### The projections that replays reach -/

/-- `owner` is the handoff of the request whose receipt `receiptID` is. -/
def Issued (receiptID owner : String) : Prop :=
  ∃ operation binding request, receiptID = opaqueReceiptID operation binding
      (digest (.admissionRequest request)) ∧
    validDigest (digest (.admissionRequest request)) = true ∧
    owner = scopedID request.binding.controlRunID
      (handoffID request.binding.controlRunID request.subjectDigest)

/-- What the replay checks rely on beyond the records that the builders look up. -/
structure Ready (p : Projection) : Prop where
  leases : ∀ key lease, p.leases.get? key = some lease → lease.issuedAt < lease.expiresAt
  receipts : ∀ receiptID owner, p.handoffReceipts.get? receiptID = some owner → Issued receiptID owner
  recoveries : ∀ key record, p.recoveries.get? key = some record → record.state ≠ .effectObserved

theorem Issued.unique (injective : sha.Injective) {receiptID one two : String}
    (first : Issued receiptID one) (second : Issued receiptID two) : one = two := by
  obtain ⟨operation, binding, request, rfl, valid, rfl⟩ := first
  obtain ⟨operation', binding', request', same, valid', rfl⟩ := second
  have size : ∀ {text : String}, validDigest text = true → text.utf8ByteSize = 71 := by
    intro text valid
    simp only [validDigest, Bool.and_eq_true, decide_eq_true_eq] at valid
    exact valid.1.2
  have joined := injective.seed16 _ _ (append_left_cancel same)
  have digests : digest (.admissionRequest request) = digest (.admissionRequest request') :=
    joinNul_last ["receipt", operation.name, binding.installationID, binding.controlRunID,
        binding.actionID, toString binding.generation]
      ["receipt", operation'.name, binding'.installationID, binding'.controlRunID, binding'.actionID,
        toString binding'.generation] joined ((size valid).trans (size valid').symm)
  cases digest_inj injective.document valid digests
  rfl

theorem build_not_observed {plan : Plan} {p : Projection}
    {binding : SemanticBinding} {requestDigest : String} {now : Time} {value : RecoveryRecord}
    (planned : call.Plans s plan) (built : plan.build s p binding requestDigest now = .ok (.recovery value)) :
    value.state ≠ .effectObserved := by
  have closed : ∀ status state, fencedState status = some state ∨ appliedState status = some state →
      state ≠ .effectObserved := by
    rintro status state closes rfl
    cases status <;> simp [fencedState, appliedState] at closes
  cases build_ok built with
  | startObservation => simp
  | cancelOrFence => exact closed _ _ (.inl planned.cancelOrFence)
  | scannerApply _ _ _ applied => exact closed _ _ (.inr applied)

section Written

variable {s : Service} {plan : Plan} {now occurredAt : Time} {p : Projection} {effect : Effect}
  {entry : Entry}

theorem Written.bound (written : Written s plan now occurredAt p effect entry) :
    Bound p.installationID entry.action entry.reservation entry.outcome (s.request plan.transition p.installationID)
      (outcomeOf (s.request plan.transition p.installationID) effect) := by
  obtain ⟨_, subject, _⟩ := validateOutcomeSemantics_ok written.valid
  have formed := written.formed
  have actionID : entry.reservation.actionID = entry.action.id := by rw [formed.reservation]; rfl
  have run : entry.reservation.controlRunID = entry.action.controlRunID := by
    rw [formed.reservation]; rfl
  have kind := formed.reservedKind
  have head : entry.reservation.runSequence = entry.action.expectedProjection + 1 := by
    rw [written.sequence, written.action]; rfl
  have bound := formed.bound
  rw [written.action] at actionID run head bound ⊢
  refine ⟨rfl, rfl, rfl, rfl, rfl, rfl, rfl, rfl, rfl, rfl, rfl, rfl, rfl, subject, rfl, rfl, ?_, rfl,
    rfl, rfl, rfl, rfl, rfl, rfl, actionID, run, kind, head, formed.nextSequence,
    formed.nextPosition, ?_, bound, ?_, ?_⟩
  all_goals rw [written.outcome]; rfl

theorem Written.requestRead (injective : sha.Injective) (written : Written s plan now occurredAt p effect entry) :
    entry.requestRead = .admissionRequest (s.request plan.transition p.installationID) := by
  obtain ⟨valid, stored⟩ := validatePayload_ok written.formed.requestStored
  obtain ⟨_, result⟩ := validatePayload_ok written.formed.resultStored
  unfold Entry.requestRead
  rw [if_neg, written.request]
  intro same
  rw [← stored, written.request] at valid same
  rw [← result, written.result] at same
  cases digest_inj injective.document valid same

theorem Written.fresh (written : Written s plan now occurredAt p effect entry) :
    p.transitions.get? (semanticIndex plan.transition.controlRunID plan.transition.identity.actionID
      plan.transition.identity.generation) = none ∧ p.idempotency.get? (idempotencyIndex plan.transition.controlRunID
      plan.transition.identity.idempotencyKey) = none := by
  have unseen := written.unseen
  simp only [existing, Option.map_eq_none_iff] at unseen
  revert unseen
  cases p.transitions.get? (semanticIndex plan.transition.controlRunID
    plan.transition.identity.actionID plan.transition.identity.generation) <;> simp [Option.orElse]

theorem Written.absorbs (injective : sha.Injective) (written : Written s plan now occurredAt p effect entry)
    (applies : ∀ base : Projection, base.admissions = p.admissions → base.leases = p.leases →
      base.handoffs = p.handoffs → base.handoffReceipts = p.handoffReceipts →
      base.recoveries = p.recoveries → ∃ q, Applied base plan.transition.operation plan.transition.controlRunID
        entry.outcome.journalPosition plan.transition.subject effect q) : ∃ q, p.absorb entry = .ok q := by
  obtain ⟨semantic, idempotent⟩ := written.fresh
  have digests : entry.reservation.payloadDigest = digest (.action entry.action) := by
    rw [written.formed.reservation]; rfl
  have persisted : validatePersistedTransition p.installationID entry.action entry.reservation
      entry.outcome (s.request plan.transition p.installationID)
      (outcomeOf (s.request plan.transition p.installationID) effect) = .ok () := by
    unfold validatePersistedTransition
    rw [require_bind _ written.bound, require_bind _ digests]
    exact written.valid
  obtain ⟨q, applied⟩ := applies ((p.advance entry).indexed (recordOf entry
    (s.request plan.transition p.installationID)
    (outcomeOf (s.request plan.transition p.installationID) effect))) rfl rfl rfl rfl rfl
  refine ⟨q, ?_⟩
  have ours : admissionComponent (.admissionOutcome (outcomeOf (s.request plan.transition p.installationID)
      effect)) = .ok true := by simp [admissionComponent, outcomeOf]
  unfold absorb
  simp only [written.result, ours, written.requestRead injective, decodeRequest, decodeOutcome, ok_bind, if_true]
  rw [show (p.advance entry).installationID = p.installationID from rfl, persisted, ok_bind]
  unfold Replay.enter
  rw [require_bind, require_bind]
  · exact apply_iff.mpr applied
  · intro prior found
    cases idempotent.symm.trans found
  · intro prior found
    cases semantic.symm.trans found

theorem Written.accepted (injective : sha.Injective) (ready : Ready p)
    (planned : call.Plans s plan) (orderly : Orderly plan p now)
    (written : Written s plan now occurredAt p effect entry) : ∃ q, p.absorb entry = .ok q := by
  refine written.absorbs injective fun base admissions leases handoffs receipts recoveries => ?_
  cases build_ok written.built with
  | reserve fresh =>
    refine ⟨_, .admission (fun prior found => ?_) fun _ => rfl⟩
    rw [admissions] at found
    cases fresh.symm.trans found
  | @stateTransition request _ _ _ prior found subject live waiting =>
    have held : base.admissions.get? (scopedID request.controlRunID prior.subject.id) = some prior := by
      rw [admissions, subject, found]
    refine ⟨_, .admission (fun other same => ?_) fun absent => ?_⟩
    · cases held.symm.trans same
      exact ⟨rfl, waiting_follows planned.stateTransition live waiting fun enqueues => orderly enqueues prior found⟩
    · cases absent.symm.trans held
  | @release request _ prior found subject live chosen =>
    have held : base.admissions.get? (scopedID request.controlRunID request.subject.id) = some prior := by
      rw [admissions, found]
    exact ⟨_, .admissionTombstone held live subject rfl chosen⟩
  | acquireLease fresh =>
    refine ⟨_, .lease (fun prior found => ?_) rfl⟩
    rw [leases] at found
    cases fresh.symm.trans found
  | @renewLease request prior found subject active generation expiry =>
    have held : base.leases.get? (scopedID request.controlRunID prior.subject.id) = some prior := by
      rw [leases, subject, found]
    refine ⟨_, .lease (fun other same => ?_) active⟩
    cases held.symm.trans same
    exact ⟨rfl, active, active, generation, rfl, rfl, expiry⟩
  | @terminalLease request _ state prior found subject expiry active due =>
    have held : base.leases.get? (scopedID request.controlRunID request.subject.id) = some prior := by
      rw [leases, found]
    have order := ready.leases _ prior found
    have terminal : state = .released ∨ state = .expired := validLeaseTombstone written.valid rfl
    refine ⟨_, .leaseTombstone held rfl ⟨active, subject, rfl, terminal, subject.symm, expiry.symm,
      rfl, rfl, ?_, due⟩⟩
    rcases terminal with released | expired
    · exact orderly released prior found
    · exact (le_of_lt order).trans (due expired)
  | handoff follows starts =>
    obtain ⟨id, receipt, first⟩ := validHandoff written.valid rfl
    refine ⟨_, .handoff ?_ fun owner found => ?_⟩
    · rw [handoffs]
      cases found : p.handoffs.get? _ with
      | none => exact ⟨starts found, first (starts found)⟩
      | some prior =>
        obtain ⟨_, subject, predecessor, valid⟩ := follows prior found
        exact ⟨subject, valid, predecessor.symm⟩
    · rw [receipts] at found
      obtain ⟨valid, stored⟩ := validatePayload_ok written.formed.requestStored
      rw [← stored, written.request] at valid
      refine Issued.unique injective (ready.receipts _ owner found) ⟨_, _, _, receipt, valid, ?_⟩
      exact congrArg (scopedID _) id
  | startObservation fresh may =>
    refine ⟨_, .recovery (fun prior found => ?_) fun _ => ?_⟩
    · rw [recoveries] at found
      cases fresh.symm.trans found
    · rw [latestRecovery_congr recoveries]
      exact ⟨rfl, may⟩
  | @cancelOrFence _ _ prior found latest running | @scannerApply _ _ prior found latest running _ =>
    refine ⟨_, .recovery (fun other same => ?_) fun absent => ?_⟩
    · rw [recoveries, found] at same
      cases same
      have started := running.resolve_right (ready.recoveries _ prior found)
      rw [latestRecovery_congr recoveries, started]
      first
        | exact ⟨latest, started_follows (.inl planned.cancelOrFence)⟩
        | exact ⟨latest, started_follows (.inr (by assumption))⟩
    · rw [recoveries, found] at absent
      cases absent

theorem Ready.written {q : Projection} (ready : Ready p)
    (planned : call.Plans s plan) (written : Written s plan now occurredAt p effect entry)
    (absorbed : p.absorb entry = .ok q) : Ready q := by
  obtain ⟨_, _, applied⟩ := written.applied absorbed
  cases applied with
  | lease =>
    refine ⟨fun key lease found => ?_, ready.receipts, ready.recoveries⟩
    rw [get?_put] at found
    split at found
    · cases found
      exact validLease written.valid rfl
    · exact ready.leases key lease found
  | @leaseTombstone _ prior _ held =>
    refine ⟨fun key lease found => ?_, ready.receipts, ready.recoveries⟩
    rw [get?_put] at found
    split at found
    · cases found
      exact ready.leases _ prior held
    · exact ready.leases key lease found
  | handoff =>
    refine ⟨ready.leases, fun receiptID owner found => ?_, ready.recoveries⟩
    rw [get?_put] at found
    split at found
    · rename_i same
      cases found
      obtain ⟨id, receipt, _⟩ := validHandoff written.valid rfl
      obtain ⟨valid, stored⟩ := validatePayload_ok written.formed.requestStored
      rw [← stored, written.request] at valid
      exact ⟨_, _, _, same.trans receipt, valid, congrArg (scopedID _) id⟩
    · exact ready.receipts receiptID owner found
  | recovery =>
    refine ⟨ready.leases, ready.receipts, fun key record found => ?_⟩
    rw [get?_put] at found
    split at found
    · cases found
      exact build_not_observed planned written.built
    · exact ready.recoveries key record found
  | _ => exact ⟨ready.leases, ready.receipts, ready.recoveries⟩

end Written

theorem Sound.replays (injective : sha.Injective) {svc : Nat → Service} {installationID : String}
    {sys : System} {log : List Entry} (sound : Sound svc Orderly installationID sys log) :
    ∃ p, replay installationID log = .ok p ∧ Ready p := by
  refine sound.authored.replayable Ready ⟨fun _ _ found => ?_, fun _ _ found => ?_, fun _ _ found => ?_⟩ ?_ ?_
  · cases found
  · cases found
  · cases found
  · rintro p entry ready ⟨_, _, _, _, _, _, planned, orderly, written⟩
    obtain ⟨q, absorbed⟩ := written.accepted injective ready planned orderly
    exact ⟨q, absorbed, ready.written planned written absorbed⟩
  · intro p entry ready outside
    refine ⟨p.advance entry, ?_, ready.leases, ready.receipts, ready.recoveries⟩
    simp only [absorb, outside.1]
    rfl

/-- In every orderly run the journal replays from position zero, and every service reads it. -/
theorem orderly_replays (injective : sha.Injective) {svc : Nat → Service} {installationID : String}
    {sys : System} (reachable : Reachable svc Orderly installationID sys) : ∃ view, rebuildAll sys.store = .ok view ∧
      ∀ i, (rebuild sys.store (sys.caches i)).1 = .ok view := by
  obtain ⟨log, sound⟩ := reachable_sound reachable
  obtain ⟨p, replayed, _⟩ := sound.replays injective
  have rebuilt : rebuildAll sys.store = .ok (viewOf sys.store log p) := by
    rw [sound.rebuildAll, replayed]
    rfl
  refine ⟨_, rebuilt, fun i => ?_⟩
  rw [rebuild_eq sound.holds sound.clean sound.named (sound.caches i), rebuilt]

end Commits

def lives : List Label :=
  Label.serve 0 0 (.reserve (.sample "one" "1")) 1 ++ Label.serve 1 1 (.enqueue (.sample "one" "2")) 1 ++
  Label.serve 2 0 (.admitRun (.sample "one" "3")) 1 ++
  Label.serve 3 1 (.acquireLease (.sample "lease" "4" 1 10)) 5 ++
  Label.serve 4 0 (.releaseLease (.sample "lease" "5" 1 10)) 5

def enqueueTwice : List Label :=
  Label.serve 0 0 (.reserve (.sample "one" "1")) 1 ++ Label.serve 1 1 (.enqueue (.sample "one" "2")) 1 ++
  Label.serve 2 0 (.enqueue (.sample "one" "6")) 1

/-- A lease issued at 5 is released by a service whose clock reads 4. -/
def releaseEarly : List Label :=
  Label.serve 0 0 (.acquireLease (.sample "lease" "7" 1 10)) 5 ++
  Label.serve 1 1 (.releaseLease (.sample "lease" "8" 1 10)) 4

@[reducible] def replayHash : Sha :=
  Sha.separating (runDocuments lives ++ runDocuments enqueueTwice ++ runDocuments releaseEarly).dedup

theorem replayHash_injective : replayHash.Injective := Sha.separating_injective (by decide +kernel)

attribute [local instance] replayHash

theorem orderly_replays_lives : ∃ sys view, System.run (fun _ => .sample) Orderly .sample lives = some sys ∧
    sys.store.events.length = 10 ∧ rebuildAll sys.store = .ok view ∧
    ∀ i, (rebuild sys.store (sys.caches i)).1 = .ok view := by
  obtain ⟨sys, ran, ten⟩ : ∃ sys, System.run (fun _ => .sample) Orderly .sample lives = some sys ∧
      sys.store.events.length = 10 := by decide +kernel
  obtain ⟨view, rebuilt⟩ := orderly_replays replayHash_injective (System.sample_reachable.run ran)
  exact ⟨sys, view, ran, ten, rebuilt⟩

/-- Both commits are accepted, and from then on no service reads the journal. -/
theorem commit_not_replayed : replayHash.Injective ∧
    (∃ sys, System.run (fun _ => .sample) (fun _ _ _ => True) .sample enqueueTwice = some sys ∧
      Reachable (fun _ => .sample) (fun _ _ _ => True) "i" sys ∧ sys.store.events.length = 6 ∧
      rebuildAll sys.store = .error (invalidOutcome .queueEnqueue)) ∧
    ∃ sys, System.run (fun _ => .sample) (fun _ _ _ => True) .sample releaseEarly = some sys ∧
      Reachable (fun _ => .sample) (fun _ _ _ => True) "i" sys ∧ sys.store.events.length = 4 ∧
      rebuildAll sys.store = .error (invalidOutcome .leaseRelease) := by
  obtain ⟨sys, ran, failed⟩ : ∃ sys,
      System.run (fun _ => .sample) (fun _ _ _ => True) .sample enqueueTwice = some sys ∧ sys.store.events.length = 6 ∧
      rebuildAll sys.store = .error (invalidOutcome .queueEnqueue) := by decide +kernel
  obtain ⟨sys', ran', failed'⟩ : ∃ sys,
      System.run (fun _ => .sample) (fun _ _ _ => True) .sample releaseEarly = some sys ∧ sys.store.events.length = 4 ∧
      rebuildAll sys.store = .error (invalidOutcome .leaseRelease) := by decide +kernel
  exact ⟨replayHash_injective, ⟨sys, ran, System.sample_reachable.run ran, failed⟩,
    ⟨sys', ran', System.sample_reachable.run ran', failed'⟩⟩

end Paje.Admission
