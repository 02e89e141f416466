import Paje.Admission.Service

/-!
What each outcome builder checks and builds, and from the built record back to its builder.
-/

namespace Paje.Admission

open Text Journal

variable {p : Projection}

def normalized (p : Projection) (identity : RecoveryIdentity) : RecoveryIdentity :=
  { identity with installationID := p.installationID }

theorem normalizeRecoveryIdentity_ok {operation : SemanticOperation} {identity value : RecoveryIdentity}
    (h : normalizeRecoveryIdentity p identity operation = .ok value) : value = normalized p identity := by
  unfold normalizeRecoveryIdentity at h
  obtain ⟨_, h⟩ := require_bind_ok h
  exact (pure_ok h).symm

variable [sha : Sha]

section Builders

variable {s : Service} {binding : SemanticBinding} {effect : Effect}
  {requestDigest : String} {now : Time}

def HandoffRequest.id (request : HandoffRequest) : String :=
  handoffID request.controlRunID (digest (.admissionSubject (.evidenceHandoff request.subject)))

/-- What the builder of a plan has checked, and the effect that it built. -/
inductive Built (s : Service) (p : Projection) (binding : SemanticBinding) (requestDigest : String) (now : Time) :
    Plan → Effect → Prop
  | reserve {request : AdmissionRequest} :
    p.admissions.get? (scopedID request.controlRunID request.subject.id) = none →
    Built s p binding requestDigest now (.reserve request) (.admission {
      controlRunID := request.controlRunID
      subject := request.subject
      state := .reserved
      graphRevision := binding.graphRevision
      generation := binding.generation
      policyVersion := s.policy.version
      policyDigest := s.policyDigest
      originalRequestDigest := requestDigest
      receiptID := opaqueReceiptID .admissionReserve binding requestDigest })
  | stateTransition {request : AdmissionRequest} {operation : SemanticOperation} {state : AdmissionState}
    {limiter : QuotaKind} {prior : RunAdmission} :
    p.admissions.get? (scopedID request.controlRunID request.subject.id) = some prior →
    prior.subject = request.subject → prior.state ≠ .released → prior.state ≠ .admitted →
    (operation = .queueAdmit → limitingQuota s p request = .none) →
    Built s p binding requestDigest now (.stateTransition request operation state limiter) (.admission { prior with
      state
      limitingQuota := limiter
      generation := binding.generation
      graphRevision := binding.graphRevision
      policyVersion := s.policy.version
      policyDigest := s.policyDigest
      receiptID := opaqueReceiptID operation binding prior.originalRequestDigest
      sequence := 0 })
  | release {request : AdmissionRequest} {operation : SemanticOperation} {prior : RunAdmission} :
    p.admissions.get? (scopedID request.controlRunID request.subject.id) = some prior →
    prior.subject = request.subject → prior.state ≠ .released → releaseOperation prior.state = operation →
    Built s p binding requestDigest now (.release request operation) (.admissionTombstone {
      controlRunID := request.controlRunID
      subject := request.subject
      graphRevision := binding.graphRevision
      generation := binding.generation
      policyVersion := s.policy.version
      policyDigest := s.policyDigest
      originalRequestDigest := prior.originalRequestDigest
      terminalReceiptID := opaqueReceiptID operation binding prior.originalRequestDigest
      releasedAt := now })
  | acquireLease {request : LeaseRequest} :
    p.leases.get? (scopedID request.controlRunID request.subject.id) = none →
    ¬ conflictingLease p request.controlRunID request.subject →
    Built s p binding requestDigest now (.acquireLease request) (.lease {
      controlRunID := request.controlRunID
      subject := request.subject
      state := .active
      issuedAt := now
      expiresAt := request.expiresAt
      generation := binding.generation
      graphRevision := binding.graphRevision
      originalRequestDigest := requestDigest
      receiptID := opaqueReceiptID .leaseAcquire binding requestDigest })
  | renewLease {request : LeaseRequest} {prior : Lease} :
    p.leases.get? (scopedID request.controlRunID request.subject.id) = some prior →
    prior.subject = request.subject → prior.state = .active → prior.generation < binding.generation →
    prior.expiresAt < request.expiresAt →
    Built s p binding requestDigest now (.renewLease request) (.lease { prior with
      expiresAt := request.expiresAt
      generation := binding.generation
      graphRevision := binding.graphRevision
      receiptID := opaqueReceiptID .leaseRenew binding prior.originalRequestDigest })
  | terminalLease {request : LeaseRequest} {operation : SemanticOperation} {state : LeaseState} {prior : Lease} :
    p.leases.get? (scopedID request.controlRunID request.subject.id) = some prior →
    prior.subject = request.subject → prior.expiresAt = request.expiresAt → prior.state = .active →
    (state = .expired → prior.expiresAt ≤ now) →
    Built s p binding requestDigest now (.terminalLease request operation state) (.leaseTombstone {
      controlRunID := request.controlRunID
      subject := request.subject
      state
      issuedAt := prior.issuedAt
      expiresAt := prior.expiresAt
      generation := binding.generation
      graphRevision := binding.graphRevision
      originalRequestDigest := prior.originalRequestDigest
      terminalReceiptID := opaqueReceiptID operation binding prior.originalRequestDigest
      terminalAt := now })
  | handoff {request : HandoffRequest} {operation : SemanticOperation} {state : HandoffState} :
    (∀ prior ∈ p.handoffs.get? (scopedID request.controlRunID request.id),
      state ≠ .issued ∧ prior.subject = request.subject ∧
      prior.receiptID = request.predecessorReceiptID ∧ validHandoffTransition prior.state state = true) →
    (p.handoffs.get? (scopedID request.controlRunID request.id) = none → state = .issued) →
    Built s p binding requestDigest now (.handoff request operation state) (.handoff {
      id := request.id
      controlRunID := request.controlRunID
      subject := request.subject
      state
      receiptID := opaqueReceiptID operation binding requestDigest
      predecessorReceiptID := request.predecessorReceiptID })
  | startObservation {request : RecoveryRequest} :
    p.recoveries.get? (recoveryIndex (normalized p request.recovery)) = none →
    mayStart (latestRecovery p (normalized p request.recovery)) (normalized p request.recovery) →
    Built s p binding requestDigest now (.startObservation request) (.recovery {
      identity := normalized p request.recovery
      state := .observationStarted
      receiptID := opaqueReceiptID .startObservation binding requestDigest })
  | cancelOrFence {request : FenceRequest} {state : RecoveryState} {prior : RecoveryRecord} :
    p.recoveries.get? (recoveryIndex (normalized p request.recovery)) = some prior →
    isLatest p (normalized p request.recovery) →
    prior.state = .observationStarted ∨ prior.state = .effectObserved →
    Built s p binding requestDigest now (.cancelOrFence request state) (.recovery {
      identity := normalized p request.recovery
      state
      receiptID := opaqueReceiptID .cancelOrFence binding requestDigest
      fact := some ⟨request.proof.status, request.proof.receiptID, request.recovery.subjectDigest⟩ })
  | scannerApply {request : ScannerApplyRequest} {state : RecoveryState} {prior : RecoveryRecord} :
    p.recoveries.get? (recoveryIndex (normalized p request.recovery)) = some prior →
    isLatest p (normalized p request.recovery) →
    prior.state = .observationStarted ∨ prior.state = .effectObserved →
    appliedState request.fact.status = some state →
    Built s p binding requestDigest now (.scannerApply request) (.recovery {
      identity := normalized p request.recovery
      state
      receiptID := opaqueReceiptID .scannerApply binding requestDigest
      fact := some request.fact })

theorem build_ok {plan : Plan} (h : plan.build s p binding requestDigest now = .ok effect) :
    Built s p binding requestDigest now plan effect := by
  cases plan with
  | reserve request =>
    obtain ⟨fresh, h⟩ := require_bind_ok h
    exact pure_ok h ▸ .reserve fresh
  | stateTransition request operation state limiter =>
    simp only [Plan.build, buildAdmissionState] at h
    split at h
    · cases h
    · rename_i prior found
      obtain ⟨⟨subject, live, waiting⟩, h⟩ := require_bind_ok h
      obtain ⟨⟨free, _⟩, h⟩ := require_bind_ok h
      exact pure_ok h ▸ .stateTransition found subject live waiting free
  | release request operation =>
    simp only [Plan.build, buildRelease] at h
    split at h
    · cases h
    · rename_i prior found
      obtain ⟨⟨subject, live⟩, h⟩ := require_bind_ok h
      obtain ⟨chosen, h⟩ := require_bind_ok h
      exact pure_ok h ▸ .release found subject live chosen
  | acquireLease request =>
    obtain ⟨_, h⟩ := require_bind_ok h
    obtain ⟨fresh, h⟩ := require_bind_ok h
    obtain ⟨free, h⟩ := require_bind_ok h
    exact pure_ok h ▸ .acquireLease fresh free
  | renewLease request =>
    obtain ⟨_, h⟩ := require_bind_ok h
    split at h
    · cases h
    · rename_i prior found
      obtain ⟨subject, h⟩ := require_bind_ok h
      obtain ⟨⟨active, _⟩, h⟩ := require_bind_ok h
      obtain ⟨⟨generation, expiry⟩, h⟩ := require_bind_ok h
      exact pure_ok h ▸ .renewLease found subject active generation expiry
  | terminalLease request operation state =>
    simp only [Plan.build, buildTerminalLease] at h
    split at h
    · cases h
    · rename_i prior found
      obtain ⟨subject, h⟩ := require_bind_ok h
      obtain ⟨expiry, h⟩ := require_bind_ok h
      obtain ⟨active, h⟩ := require_bind_ok h
      obtain ⟨due, h⟩ := require_bind_ok h
      exact pure_ok h ▸ .terminalLease found subject expiry active due
  | handoff request operation state =>
    simp only [Plan.build, buildHandoff] at h
    split at h
    · rename_i prior found
      obtain ⟨follows, h⟩ := require_bind_ok h
      refine pure_ok h ▸ .handoff (fun other same => ?_) fun absent => by cases absent.symm.trans found
      cases found.symm.trans same
      exact follows
    · rename_i absent
      split at h
      · obtain ⟨_, h⟩ := require_bind_ok h
        cases h
      · rename_i issues
        exact pure_ok h ▸ .handoff (fun prior found => by cases absent.symm.trans found) fun _ => not_not.mp issues
  | startObservation request =>
    obtain ⟨identity, normal, h⟩ := bind_ok h
    cases normalizeRecoveryIdentity_ok normal
    obtain ⟨fresh, h⟩ := require_bind_ok h
    obtain ⟨may, h⟩ := require_bind_ok h
    exact pure_ok h ▸ .startObservation fresh may
  | cancelOrFence request state =>
    obtain ⟨identity, normal, h⟩ := bind_ok h
    cases normalizeRecoveryIdentity_ok normal
    split at h
    · cases h
    · rename_i prior found
      obtain ⟨latest, h⟩ := require_bind_ok h
      obtain ⟨running, h⟩ := require_bind_ok h
      exact pure_ok h ▸ .cancelOrFence found latest running
  | scannerApply request =>
    obtain ⟨identity, normal, h⟩ := bind_ok h
    cases normalizeRecoveryIdentity_ok normal
    split at h
    · cases h
    · rename_i prior found
      obtain ⟨latest, h⟩ := require_bind_ok h
      obtain ⟨_, h⟩ := require_bind_ok h
      obtain ⟨running, h⟩ := require_bind_ok h
      split at h
      · cases h
      · rename_i state applied
        exact pure_ok h ▸ .scannerApply found latest running applied

end Builders

/-! ### What the checks on an outcome say -/

section Checks

variable {request : RequestEnvelope} {outcome : OutcomeEnvelope}

section

variable (valid : validateOutcomeSemantics request outcome = .ok ())
include valid

theorem validateOutcomeSemantics_ok :
    validateOutcomeShape outcome = .ok () ∧ validDigest outcome.binding.subjectDigest = true ∧
    (match outcome.effect with
      | .admission value =>
        validateAdmissionOutcome request outcome value (digest (.admissionRequest request))
      | .admissionTombstone value => validateAdmissionTombstoneOutcome request outcome value
      | .lease value => validateLeaseOutcome request outcome value (digest (.admissionRequest request))
      | .leaseTombstone value => validateLeaseTombstoneOutcome request outcome value
      | .handoff value =>
        validateHandoffOutcome request outcome value (digest (.admissionRequest request))
      | .recovery value =>
        validateRecoveryOutcome request outcome value (digest (.admissionRequest request))) = .ok () := by
  unfold validateOutcomeSemantics at valid
  obtain ⟨_, shape, valid⟩ := bind_ok valid
  obtain ⟨⟨_, _, subject, _⟩, valid⟩ := require_bind_ok valid
  obtain ⟨_, _, valid⟩ := bind_ok valid
  exact ⟨shape, subject, valid⟩

theorem validAdmission {value : RunAdmission} (made : outcome.effect = .admission value) :
    value.controlRunID = outcome.binding.controlRunID ∧
    wantedAdmission outcome.semanticOperation value.limitingQuota = some (value.state, value.limitingQuota) := by
  obtain ⟨_, _, valid⟩ := validateOutcomeSemantics_ok valid
  simp only [made, validateAdmissionOutcome] at valid
  obtain ⟨_, _, valid⟩ := bind_ok valid
  obtain ⟨⟨run, _⟩, valid⟩ := require_bind_ok valid
  obtain ⟨_, valid⟩ := require_bind_ok valid
  exact ⟨run, require_ok valid⟩

theorem validRelease
    (operation : outcome.semanticOperation = .admissionRelease ∨ outcome.semanticOperation = .queueRelease) :
    ∃ value, outcome.effect = .admissionTombstone value ∧ request.subject = .runAdmission value.subject := by
  obtain ⟨shape, _, valid⟩ := validateOutcomeSemantics_ok valid
  cases made : outcome.effect with
  | admissionTombstone value =>
    simp only [made, validateAdmissionTombstoneOutcome] at valid
    obtain ⟨subject, decoded, valid⟩ := bind_ok valid
    obtain ⟨_, same, _⟩ := require_ok valid
    unfold admissionSubjectOf at decoded
    split at decoded
    · rename_i named
      obtain ⟨_, decoded⟩ := require_bind_ok decoded
      exact ⟨value, rfl, by rw [named, same, pure_ok decoded]⟩
    · cases decoded
  | _ =>
    rcases operation with operation | operation <;>
    · simp only [validateOutcomeShape, operation, made] at shape
      cases shape

theorem validLease {value : Lease} (made : outcome.effect = .lease value) :
    value.issuedAt < value.expiresAt := by
  obtain ⟨_, _, valid⟩ := validateOutcomeSemantics_ok valid
  simp only [made, validateLeaseOutcome] at valid
  obtain ⟨_, _, valid⟩ := bind_ok valid
  obtain ⟨⟨_, _, _, _, _, order, _⟩, _⟩ := require_bind_ok valid
  exact order

theorem validLeaseTombstone {value : LeaseTombstone} (made : outcome.effect = .leaseTombstone value) :
    value.state = .released ∨ value.state = .expired := by
  obtain ⟨_, _, valid⟩ := validateOutcomeSemantics_ok valid
  simp only [made, validateLeaseTombstoneOutcome] at valid
  obtain ⟨_, _, valid⟩ := bind_ok valid
  obtain ⟨_, _, state, _⟩ := require_ok valid
  rw [state]
  split
  · exact .inr rfl
  · exact .inl rfl

theorem validHandoff {value : EvidenceHandoff} (made : outcome.effect = .handoff value) :
    value.id = handoffID outcome.binding.controlRunID outcome.subjectDigest ∧
    value.receiptID = opaqueReceiptID outcome.semanticOperation outcome.binding (digest (.admissionRequest request)) ∧
    (value.state = .issued → value.predecessorReceiptID = "") := by
  obtain ⟨_, _, valid⟩ := validateOutcomeSemantics_ok valid
  simp only [made, validateHandoffOutcome] at valid
  split at valid
  · obtain ⟨_, valid⟩ := require_bind_ok valid
    obtain ⟨⟨_, _, _, id, state, _, receipt⟩, valid⟩ := require_bind_ok valid
    refine ⟨id, receipt, fun issued => ?_⟩
    rw [if_pos (state ▸ issued)] at valid
    exact (require_ok valid).1
  · cases valid

end

end Checks

end Paje.Admission
